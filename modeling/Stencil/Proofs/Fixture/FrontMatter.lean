import Mathlib.Data.List.Infix
import Stencil.Fixture.FrontMatter
import Stencil.Proofs.Text.Search

set_option autoImplicit false

namespace Stencil.FrontMatter

def IsLineEnd (lineEnd : List Char) : Prop :=
  lineEnd = ['\n'] ∨ lineEnd = ['\r', '\n']

-- Whether a text is one line, and none that could be taken for the end of the front matter.
structure IsPlainLine (line : List Char) : Prop where
  noReturn : '\r' ∉ line
  noNewline : '\n' ∉ line
  noDashes : ¬ dashes <+: line

def framed (lineEnd : List Char) (lines : List (List Char)) (script : List Char) : List Char :=
  dashes ++ lineEnd ++ lines.flatMap (· ++ lineEnd) ++ dashes ++ lineEnd ++ script

def ofToml (toml : String) : Except FrontMatterError FrontMatter :=
  ((Toml.readTable toml).bind ofTable).mapError .toml

theorem read_of_split {content toml script : List Char} (cut : split content = .ok (toml, script)) :
    read (String.ofList content) =
      (ofToml (String.ofList toml)).map fun frontMatter => (frontMatter, String.ofList script) := by
  rw [read, ofToml, String.toList_ofList, cut]
  cases given : Toml.readTable (String.ofList toml) with
  | error fault => simp [bind, Except.bind, Except.mapError, Except.map, given]
  | ok table =>
    cases meant : ofTable table <;>
      simp [bind, Except.bind, Except.mapError, Except.map, pure, Except.pure, given, meant]

variable {lineEnd line script : List Char} {lines : List (List Char)}

theorem skipLineEnd_append (isEnd : IsLineEnd lineEnd) (rest : List Char) :
    skipLineEnd (lineEnd ++ rest) = rest := by
  rcases isEnd with rfl | rfl <;> rfl

theorem dropReturns_append {text : List Char} (ends : text.getLast? ≠ some '\r')
    (more : List Char) : dropReturns (text ++ more) = text ++ dropReturns more := by
  have kept : text.reverse.dropWhile (· == '\r') = text.reverse := by
    rw [← List.head?_reverse] at ends
    cases reversed : text.reverse with
    | nil => rfl
    | cons c rest => simp_all
  rw [dropReturns, dropReturns, List.reverse_append, List.dropWhile_append, kept]
  split
  next none => rw [List.isEmpty_iff.1 none, List.reverse_reverse, List.reverse_nil, List.append_nil]
  next => rw [List.reverse_append, List.reverse_reverse]

theorem getLast?_intercalate (isEnd : IsLineEnd lineEnd) (plain : ∀ line ∈ lines, IsPlainLine line) :
    (lineEnd.intercalate lines).getLast? ≠ some '\r' := by
  induction lines with
  | nil => simp
  | cons first rest ih =>
    obtain ⟨one, others⟩ := List.forall_mem_cons.1 plain
    cases rest with
    | nil =>
      rw [List.intercalate_singleton]
      exact fun last => one.noReturn (List.mem_of_getLast? last)
    | cons second later =>
      -- The last line may be empty, and then the text ends in the line end before it.
      rw [List.intercalate_cons_cons, List.getLast?_append, List.getLast?_append]
      cases last : (lineEnd.intercalate (second :: later)).getLast? with
      | some c => simpa [last] using ih others
      | none => rcases isEnd with rfl | rfl <;> simp

theorem not_isPrefix_line (isEnd : IsLineEnd lineEnd) (noDashes : ¬ dashes <+: line)
    (rest : List Char) : ¬ dashes <+: line ++ lineEnd ++ rest := by
  intro opens
  match line with
  | [] | [_] | [_, _] => rcases isEnd with rfl | rfl <;> simp [dashes] at opens
  | a :: b :: c :: tail =>
    rw [List.append_assoc] at opens
    exact noDashes (by simpa [dashes] using opens)

theorem splitAt?_lines (isEnd : IsLineEnd lineEnd) (some : lines ≠ [])
    (plain : ∀ line ∈ lines, IsPlainLine line) (rest : List Char) :
    Text.splitAt? ('\n' :: dashes) (lines.flatMap (· ++ lineEnd) ++ (dashes ++ rest)) =
      .some (lineEnd.intercalate lines ++ lineEnd.dropLast, rest) := by
  have closing (text : List Char) : lineEnd ++ text = lineEnd.dropLast ++ '\n' :: text := by
    rcases isEnd with rfl | rfl <;> rfl
  have noNewline : '\n' ∉ lineEnd.dropLast := by rcases isEnd with rfl | rfl <;> simp
  induction lines with
  | nil => contradiction
  | cons first later ih =>
    obtain ⟨one, others⟩ := List.forall_mem_cons.1 plain
    have skipped : '\n' ∉ first ++ lineEnd.dropLast := by simp [one.noNewline, noNewline]
    rw [List.flatMap_cons, List.append_assoc, List.append_assoc, closing, ← List.append_assoc,
      Text.splitAt?_append skipped]
    cases later with
    | nil =>
      have found := Text.splitAt?_of_isPrefix ('\n' :: dashes) rest
      simp_all
    | cons second following =>
      have notHere := not_isPrefix_line isEnd (others second List.mem_cons_self).noDashes
        (following.flatMap (· ++ lineEnd) ++ (dashes ++ rest))
      rw [Text.splitAt?_cons_of_not_isPrefix (by simpa using notHere), ih (by simp) others]
      have whole := closing (lineEnd.intercalate (second :: following) ++ lineEnd.dropLast)
      simp [List.intercalate_cons_cons, ← whole]

theorem split_framed (isEnd : IsLineEnd lineEnd) (marks : Nat) :
    split (List.replicate marks '\ufeff' ++ framed lineEnd lines script) =
      match Text.splitAt? ('\n' :: dashes)
        (lines.flatMap (· ++ lineEnd) ++ (dashes ++ (lineEnd ++ script))) with
      | some (toml, rest) => .ok (dropReturns toml, skipLineEnd rest)
      | none => .error .noClosing := by
  have unmarked : (List.replicate marks '\ufeff' ++ framed lineEnd lines script).dropWhile
      (· == '\ufeff') = framed lineEnd lines script := by
    rw [List.dropWhile_append_of_pos (by simp)]
    rfl
  have opens : dashes.isPrefixOf (framed lineEnd lines script) = true := by
    simp [framed]
  have opened : (framed lineEnd lines script).drop 3 =
      lineEnd ++ (lines.flatMap (· ++ lineEnd) ++ (dashes ++ (lineEnd ++ script))) := by
    simp [framed, dashes]
  have behind := congrArg skipLineEnd opened
  rw [skipLineEnd_append isEnd] at behind
  rw [split, unmarked, if_pos opens]
  exact behind ▸ rfl

/-- What is read as TOML are the lines of the front matter, and the script is all that follows its
closing line. Without lines the closing line is taken for the first one, and so the script has to
have another one that begins with dashes, or nothing closes the front matter. -/
theorem read_framed (isEnd : IsLineEnd lineEnd) (marks : Nat)
    (plain : ∀ line ∈ lines, IsPlainLine line) (script : List Char) :
    let content := List.replicate marks '\ufeff' ++ framed lineEnd lines script
    (lines ≠ [] →
      split content = .ok (lineEnd.intercalate lines, script) ∧
      read (String.ofList content) =
        (ofToml (String.ofList (lineEnd.intercalate lines))).map fun frontMatter =>
          (frontMatter, String.ofList script)) ∧
    (lines = [] →
      (∀ toml rest, split content = .ok (toml, rest) → dashes <+: toml) ∧
      (¬ '\n' :: dashes <:+: lineEnd ++ script → split content = .error .noClosing)) := by
  intro content
  have cut : split content = _ := split_framed isEnd marks
  constructor
  next =>
    intro some
    rw [splitAt?_lines isEnd some plain] at cut
    have toml : dropReturns (lineEnd.intercalate lines ++ lineEnd.dropLast) =
        lineEnd.intercalate lines := by
      rw [dropReturns_append (getLast?_intercalate isEnd plain)]
      rcases isEnd with rfl | rfl <;> simp [dropReturns]
    simp only [toml, skipLineEnd_append isEnd] at cut
    exact ⟨cut, read_of_split cut⟩
  next =>
    rintro rfl
    have skipped : '\n' ∉ dashes := by decide
    have opening : dashes.getLast? ≠ some '\r' := by decide
    rw [List.flatMap_nil, List.nil_append, Text.splitAt?_append skipped] at cut
    constructor
    next =>
      intro toml rest found
      rw [cut] at found
      cases closed : Text.splitAt? ('\n' :: dashes) (lineEnd ++ script) with
      | none => simp [closed] at found
      | some parts =>
        simp only [closed, Option.map_some, dropReturns_append opening, Except.ok.injEq,
          Prod.mk.injEq] at found
        exact ⟨_, found.1⟩
    next =>
      intro unclosed
      rw [Text.splitAt?_eq_none unclosed] at cut
      exact cut

theorem read_framed_with_dashes_in_script :
    let lines := ["a = 1".toList, []]
    let script := "\r\n---\r\nb\n---\n".toList
    (∀ line ∈ lines, IsPlainLine line) ∧
      split ("\ufeff---\r\na = 1\r\n\r\n---\r\n".toList ++ script) =
        .ok ("a = 1\r\n".toList, script) := by
  intro lines script
  have plain : ∀ line ∈ lines, IsPlainLine line := by
    simp only [lines, List.forall_mem_cons, List.not_mem_nil, false_imp_iff, implies_true, and_true]
    exact ⟨⟨by decide, by decide, by decide⟩, by decide, by decide, by decide⟩
  exact ⟨plain, ((read_framed (.inr rfl) 1 plain script).1 (by simp [lines])).1⟩

-- Nothing stands between the two lines of dashes, and the second one is not seen.
theorem split_framed_without_lines :
    split (framed ['\n'] [] "hi".toList) = .error .noClosing := by
  rfl

end Stencil.FrontMatter
