import Mathlib.Logic.Relation
import Stencil.Proofs.Tag.Quotes

set_option autoImplicit false

namespace Stencil.Tag

open ParseError (Cause)

-- What is left of a text without its blanks outside quotations.
def WordScan.unspaced (scan : WordScan) : List Char → List Char
  | [] => []
  | c :: rest =>
    if scan = outside ∧ Text.isBlank c = true then (scan.read c).unspaced rest
    else c :: (scan.read c).unspaced rest

theorem WordScan.unspaced_cons (scan : WordScan) (c : Char) (rest : List Char) :
    scan.unspaced (c :: rest) = scan.unspaced [c] ++ (scan.read c).unspaced rest := by
  simp only [unspaced]
  split <;> rfl

-- Whether a word is neither a quotation nor an operator that needs no blanks around it; only such
-- words can begin with the mark of a function.
structure IsBare (word : List Char) : Prop where
  nonempty : word ≠ []
  plain : ∀ c ∈ word, Text.isBlank c = false ∧ c ≠ '"' ∧ c ≠ '+' ∧ c ≠ '*'
  mark : '@' ∉ word.tail

theorem isBlank_of_mark {c : Char} (mark : c = '"' ∨ c = '@' ∨ c = '+' ∨ c = '*') :
    Text.isBlank c = false := by
  rcases mark with rfl | rfl | rfl | rfl <;> decide

theorem isBare_mark : IsBare ['@'] :=
  ⟨nofun, List.forall_mem_singleton.2 (by decide), nofun⟩

theorem IsBare.concat {word : List Char} {c : Char} (bare : word = [] ∨ IsBare word)
    (plain : Text.isBlank c = false ∧ c ≠ '"' ∧ c ≠ '+' ∧ c ≠ '*') (notMark : c ≠ '@') :
    IsBare (word ++ [c]) := by
  rcases bare with rfl | ⟨nonempty, plainWord, mark⟩
  next => exact ⟨nofun, List.forall_mem_singleton.2 plain, nofun⟩
  next =>
    refine ⟨by simp, List.forall_mem_append.2 ⟨plainWord, List.forall_mem_singleton.2 plain⟩, ?_⟩
    rw [List.tail_append_of_ne_nil nonempty]
    simp [mark, notMark.symm]

def IsTagWord (word : List Char) : Prop :=
  IsQuotation word ∨ word = ['+'] ∨ word = ['*'] ∨ IsBare word

/-- Whether a blank between two parts of a text separates nothing that is not separate: it is
outside quotations, and at an end, or next to a blank, a quotation or an operator, or in front of
the mark of a function. -/
def MayBeSpaced (before after : List Char) : Prop :=
  WordScan.outside.behind before = .outside ∧
    ((∀ c ∈ before.getLast?, c = '"' ∨ c = '+' ∨ c = '*' ∨ Text.isBlank c = true) ∨
      ∀ c ∈ after.head?, c = '"' ∨ c = '@' ∨ c = '+' ∨ c = '*' ∨ Text.isBlank c = true)

def PutsBlank (text spaced : List Char) : Prop :=
  ∃ before blank after, text = before ++ after ∧ spaced = before ++ blank :: after ∧
    Text.isBlank blank = true ∧ MayBeSpaced before after

-- How far the splitting of a text has come. The pending word has its last character first.
structure Splitting where
  scan : WordScan := .outside
  pending : List Char := []
  ended : List (List Char) := []

namespace Splitting

def read (state : Splitting) (c : Char) : Splitting :=
  let ⟨scan, pending, ended⟩ := state
  match scan with
  | .outside =>
    if c = '"' then ⟨.quoted, [c], ended ++ flush pending []⟩
    else if c = '@' then ⟨.outside, [c], ended ++ flush pending []⟩
    else if c = '+' ∨ c = '*' then ⟨.outside, [], ended ++ flush pending [[c]]⟩
    else if Text.isBlank c then ⟨.outside, [], ended ++ flush pending []⟩
    else ⟨.outside, c :: pending, ended⟩
  | .quoted =>
    if c = '\\' then ⟨.escaped, c :: pending, ended⟩
    else if c = '"' then ⟨.outside, [], ended ++ [(c :: pending).reverse]⟩
    else ⟨.quoted, c :: pending, ended⟩
  | .escaped => ⟨.quoted, c :: pending, ended⟩

def finish (state : Splitting) : Except Cause (List (List Char)) :=
  match state.scan with
  | .outside => .ok (state.ended ++ flush state.pending [])
  | _ => .error (.unterminatedText (String.ofList state.pending.reverse))

theorem flush_eq_append (pending : List Char) (later : List (List Char)) :
    flush pending later = flush pending [] ++ later := by
  unfold flush
  split <;> rfl

theorem map_append_flush (ended : List (List Char)) (pending : List Char) (word : List (List Char))
    (result : Except Cause (List (List Char))) :
    result.map ((ended ++ flush pending word) ++ ·) =
      (result.map fun later => flush pending (word ++ later)).map (ended ++ ·) := by
  cases result with
  | error fault => rfl
  | ok later =>
    change Except.ok (ended ++ flush pending word ++ later) =
      Except.ok (ended ++ flush pending (word ++ later))
    rw [flush_eq_append pending word, flush_eq_append pending (word ++ later)]
    simp only [List.append_assoc]

theorem finish_foldl_read (state : Splitting) (text : List Char) :
    (text.foldl read state).finish =
      (splitWordsFrom state.scan state.pending text).map (state.ended ++ ·) := by
  induction text generalizing state with
  | nil => obtain ⟨_ | _ | _, pending, ended⟩ := state <;> rfl
  | cons c rest ih =>
    rw [List.foldl_cons, ih]
    fun_cases read state c with
    | case1 pending ended quote =>
      subst quote
      exact map_append_flush ended pending [] _
    | case2 pending ended quote mark =>
      subst mark
      exact map_append_flush ended pending [] _
    | case3 pending ended quote mark operator =>
      rw [splitWordsFrom, if_neg quote, if_neg mark, if_pos operator]
      exact map_append_flush ended pending [[c]] _
    | case4 pending ended quote mark operator blank =>
      rw [splitWordsFrom, if_neg quote, if_neg mark, if_neg operator, if_pos blank]
      exact map_append_flush ended pending [] _
    | case5 pending ended quote mark operator blank =>
      rw [splitWordsFrom, if_neg quote, if_neg mark, if_neg operator, if_neg blank]
    | case6 pending ended backslash => rw [splitWordsFrom, if_pos backslash]
    | case7 pending ended backslash quote =>
      rw [splitWordsFrom, if_neg backslash, if_pos quote]
      cases splitWordsFrom .outside [] rest <;> simp [Except.map]
    | case8 pending ended backslash quote =>
      rw [splitWordsFrom, if_neg backslash, if_neg quote]
    | case9 pending ended => rfl

theorem splitWords_eq_finish (body : List Char) :
    splitWords body = (body.foldl read {}).finish := by
  rw [finish_foldl_read]
  change _ = (splitWords body).map ([] ++ ·)
  cases splitWords body <;> rfl

def spelled (state : Splitting) : List Char :=
  state.ended.flatten ++ state.pending.reverse

structure IsProper (state : Splitting) : Prop where
  ended : ∀ word ∈ state.ended, IsTagWord word
  pends : state.scan.Pends state.pending
  bare : state.scan = .outside → state.pending = [] ∨ IsBare state.pending.reverse

theorem scan_read (state : Splitting) (c : Char) : (state.read c).scan = state.scan.read c := by
  obtain ⟨_ | _ | _, pending, ended⟩ := state <;> grind [read, WordScan.read]

theorem scan_foldl_read (state : Splitting) (text : List Char) :
    (text.foldl read state).scan = state.scan.behind text := by
  induction text generalizing state with
  | nil => rfl
  | cons c rest ih => rw [List.foldl_cons, ih, scan_read]; rfl

theorem flatten_flush (pending : List Char) (later : List (List Char)) :
    (flush pending later).flatten = pending.reverse ++ later.flatten := by
  unfold flush
  split
  next empty => rw [List.isEmpty_iff.1 empty]; rfl
  next => rfl

theorem spelled_read (state : Splitting) (c : Char) :
    (state.read c).spelled = state.spelled ++ state.scan.unspaced [c] := by
  have solid := @isBlank_of_mark c
  fun_cases read state c <;> simp_all [spelled, flatten_flush, WordScan.unspaced]

theorem spelled_foldl_read (state : Splitting) (text : List Char) :
    (text.foldl read state).spelled = state.spelled ++ state.scan.unspaced text := by
  induction text generalizing state with
  | nil => simp [WordScan.unspaced]
  | cons c rest ih =>
    rw [List.foldl_cons, ih, spelled_read, scan_read, WordScan.unspaced_cons _ c rest,
      List.append_assoc]

theorem IsProper.flush {pending : List Char} {ended later : List (List Char)}
    (proper : IsProper ⟨.outside, pending, ended⟩) (others : ∀ word ∈ later, IsTagWord word) :
    ∀ word ∈ ended ++ flush pending later, IsTagWord word := by
  refine List.forall_mem_append.2 ⟨proper.ended, forall_mem_flush ?_ others⟩
  exact (proper.bare rfl).imp_right fun bare => .inr (.inr (.inr bare))

theorem isProper_read {state : Splitting} (proper : state.IsProper) (c : Char) :
    (state.read c).IsProper := by
  fun_cases read state c with
  | case1 pending ended quote =>
    subst quote
    exact ⟨proper.flush nofun, WordScan.pends_quote, nofun⟩
  | case2 pending ended quote mark =>
    subst mark
    exact ⟨proper.flush nofun, WordScan.pends_singleton quote, fun _ => .inr isBare_mark⟩
  | case3 pending ended quote mark operator =>
    have single : IsTagWord [c] := operator.elim (by rintro rfl; exact .inr (.inl rfl))
      (by rintro rfl; exact .inr (.inr (.inl rfl)))
    exact ⟨proper.flush (List.forall_mem_singleton.2 single), WordScan.pends_nil, fun _ => .inl rfl⟩
  | case4 pending ended quote mark operator blank =>
    exact ⟨proper.flush nofun, WordScan.pends_nil, fun _ => .inl rfl⟩
  | case5 pending ended quote mark operator blank =>
    refine ⟨proper.ended, proper.pends.cons quote, fun _ => .inr ?_⟩
    have plain : Text.isBlank c = false ∧ c ≠ '"' ∧ c ≠ '+' ∧ c ≠ '*' :=
      ⟨Bool.eq_false_iff.2 blank, quote, fun plus => operator (.inl plus),
        fun times => operator (.inr times)⟩
    rw [List.reverse_cons]
    exact IsBare.concat ((proper.bare rfl).imp_left (congrArg List.reverse)) plain mark
  | case6 pending ended backslash =>
    subst backslash
    have pends : WordScan.quoted.Pends pending := proper.pends
    exact ⟨proper.ended, pends.concat (c := '\\') (by decide) (by decide), nofun⟩
  | case7 pending ended backslash quote =>
    subst quote
    refine ⟨List.forall_mem_append.2 ⟨proper.ended, ?_⟩, WordScan.pends_nil, fun _ => .inl rfl⟩
    exact List.forall_mem_singleton.2 (.inl proper.pends.isQuotation)
  | case8 pending ended backslash quote =>
    have goesOn := WordScan.read_quoted backslash quote
    have pends : WordScan.quoted.Pends pending := proper.pends
    have longer := pends.concat (c := c) (by decide) (by simp [goesOn])
    rw [goesOn] at longer
    exact ⟨proper.ended, longer, nofun⟩
  | case9 pending ended =>
    have pends : WordScan.escaped.Pends pending := proper.pends
    exact ⟨proper.ended, pends.concat (by decide) (by simp [WordScan.read]), nofun⟩

theorem isProper_foldl_read {state : Splitting} (proper : state.IsProper) (text : List Char) :
    (text.foldl read state).IsProper := by
  induction text generalizing state with
  | nil => exact proper
  | cons c rest ih => exact ih (isProper_read proper c)

theorem words_of_finish {state : Splitting} {words : List (List Char)}
    (proper : state.IsProper) (done : state.finish = .ok words) :
    words.flatten = state.spelled ∧ ∀ word ∈ words, IsTagWord word := by
  obtain ⟨_ | _ | _, pending, ended⟩ := state <;> cases done
  exact ⟨by simp [spelled, flatten_flush], proper.flush nofun⟩

theorem pending_of_read {state : Splitting} {c : Char}
    (ends : c = '"' ∨ c = '+' ∨ c = '*' ∨ Text.isBlank c = true)
    (outside : (state.read c).scan = .outside) : (state.read c).pending = [] := by
  revert outside
  have solid := @isBlank_of_mark c
  fun_cases read state c <;> simp_all

theorem read_blank {state : Splitting} {blank : Char} (isBlank : Text.isBlank blank = true)
    (outside : state.scan = .outside) :
    state.read blank = ⟨.outside, [], state.ended ++ flush state.pending []⟩ := by
  obtain ⟨scan, pending, ended⟩ := state
  cases outside
  have solid := @isBlank_of_mark blank
  simp_all [read]

theorem finish_read_blank {state : Splitting} {blank : Char} (isBlank : Text.isBlank blank = true)
    (outside : state.scan = .outside) : (state.read blank).finish = state.finish := by
  rw [read_blank isBlank outside]
  obtain ⟨scan, pending, ended⟩ := state
  cases outside
  simp [finish, flush_nil]

theorem read_blank_of_nothing {state : Splitting} {blank : Char}
    (isBlank : Text.isBlank blank = true) (outside : state.scan = .outside)
    (nothing : state.pending = []) : state.read blank = state := by
  rw [read_blank isBlank outside]
  obtain ⟨scan, pending, ended⟩ := state
  cases outside
  cases nothing
  simp [flush_nil]

theorem read_read_blank {state : Splitting} {blank c : Char} (isBlank : Text.isBlank blank = true)
    (outside : state.scan = .outside)
    (begins : c = '"' ∨ c = '@' ∨ c = '+' ∨ c = '*' ∨ Text.isBlank c = true) :
    (state.read blank).read c = state.read c := by
  rw [read_blank isBlank outside]
  fun_cases read state c with
  | case1 pending ended quote => simp [read, quote, flush_nil]
  | case2 pending ended quote mark => simp [read, mark, flush_nil]
  | case3 pending ended quote mark operator =>
    simp [read, quote, mark, operator, flush_eq_append pending [[c]], flush_nil]
  | case4 pending ended quote mark operator blank =>
    simp [read, quote, mark, operator, blank, flush_nil]
  | case5 pending ended quote mark operator blank => simp_all
  | case6 | case7 | case8 | case9 => cases outside

theorem pending_foldl_read {text : List Char}
    (ends : ∀ c ∈ text.getLast?, c = '"' ∨ c = '+' ∨ c = '*' ∨ Text.isBlank c = true)
    (outside : (text.foldl read {}).scan = .outside) : (text.foldl read {}).pending = [] := by
  rcases List.eq_nil_or_concat text with rfl | ⟨init, c, rfl⟩
  next => rfl
  next =>
    rw [List.concat_eq_append] at *
    rw [List.foldl_append] at *
    exact pending_of_read (ends c (by simp)) outside

theorem finish_of_mayBeSpaced {before after : List Char} {blank : Char}
    (isBlank : Text.isBlank blank = true) (place : MayBeSpaced before after) :
    ((before ++ blank :: after).foldl read {}).finish =
      ((before ++ after).foldl read {}).finish := by
  obtain ⟨outside, sides⟩ := place
  rw [List.foldl_append, List.foldl_append, List.foldl_cons]
  have scanned : (before.foldl read {}).scan = .outside := (scan_foldl_read {} before).trans outside
  -- In front of the blank nothing is pending, or else the character behind it ends what is.
  rcases sides with ends | begins
  next => rw [read_blank_of_nothing isBlank scanned (pending_foldl_read ends scanned)]
  next =>
    cases after with
    | nil => exact finish_read_blank isBlank scanned
    | cons c rest =>
      rw [List.foldl_cons, List.foldl_cons, read_read_blank isBlank scanned (begins c rfl)]

end Splitting

theorem splitWords_of_putsBlank {body spaced : List Char} (puts : PutsBlank body spaced) :
    splitWords spaced = splitWords body := by
  obtain ⟨before, blank, after, rfl, rfl, isBlank, place⟩ := puts
  rw [Splitting.splitWords_eq_finish, Splitting.splitWords_eq_finish,
    Splitting.finish_of_mayBeSpaced isBlank place]

end Stencil.Tag
