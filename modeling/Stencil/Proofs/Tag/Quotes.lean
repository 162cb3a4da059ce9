import Stencil.Proofs.Tag.Spelling
import Stencil.Proofs.Token.Cover
import Stencil.Text.Encoding

set_option autoImplicit false

namespace Stencil

namespace Tag

namespace WordScan

/-- A quote opens or closes, and within quotes a backslash hides the character behind it. -/
def read : WordScan → Char → WordScan
  | outside, c => if c = '"' then quoted else outside
  | quoted, c =>
    if c = '\\' then escaped
    else if c = '"' then outside
    else quoted
  | escaped, _ => quoted

def behind (scan : WordScan) (text : List Char) : WordScan :=
  text.foldl read scan

def StaysWithin (scan : WordScan) (text : List Char) : Prop :=
  ∀ part, part <+: text → scan.behind part ≠ outside

theorem behind_append (scan : WordScan) (text more : List Char) :
    scan.behind (text ++ more) = (scan.behind text).behind more :=
  List.foldl_append

theorem behind_cons_of_ne {c : Char} (notQuote : c ≠ '"') (rest : List Char) :
    outside.behind (c :: rest) = outside.behind rest := by
  have goesOn : outside.read c = outside := if_neg notQuote
  rw [behind, List.foldl_cons, goesOn]
  rfl

theorem read_quoted {c : Char} (notBackslash : c ≠ '\\') (notQuote : c ≠ '"') :
    quoted.read c = quoted := by
  simp [read, notBackslash, notQuote]

theorem staysWithin_cons {scan : WordScan} {c : Char} {rest : List Char} :
    scan.StaysWithin (c :: rest) ↔ scan ≠ outside ∧ (scan.read c).StaysWithin rest := by
  constructor
  next =>
    intro stays
    exact ⟨stays [] List.nil_prefix, fun part inside =>
      stays (c :: part) (List.cons_prefix_cons.2 ⟨rfl, inside⟩)⟩
  next =>
    rintro ⟨now, later⟩ part inside
    cases part with
    | nil => exact now
    | cons d part =>
      obtain ⟨rfl, tail⟩ := List.cons_prefix_cons.1 inside
      exact later part tail

theorem StaysWithin.concat {scan : WordScan} {text : List Char} {c : Char}
    (stays : scan.StaysWithin text) (within : (scan.behind text).read c ≠ outside) :
    scan.StaysWithin (text ++ [c]) := by
  intro part inside
  rcases List.prefix_concat_iff.1 inside with rfl | inside
  next => rwa [behind_append]
  next => exact stays part inside

theorem read_of_isBlank (scan : WordScan) {c : Char} (blank : Text.isBlank c = true) :
    scan.read c = outside ↔ scan = outside := by
  have notQuote : c ≠ '"' := by rintro rfl; exact absurd blank (by decide)
  have notBackslash : c ≠ '\\' := by rintro rfl; exact absurd blank (by decide)
  cases scan <;> simp [read, notQuote, notBackslash]

theorem behind_of_isBlank (scan : WordScan) {blanks : List Char}
    (blank : ∀ c ∈ blanks, Text.isBlank c = true) :
    scan.behind blanks = outside ↔ scan = outside := by
  induction blanks generalizing scan with
  | nil => exact Iff.rfl
  | cons c rest ih =>
    obtain ⟨first, others⟩ := List.forall_mem_cons.1 blank
    exact (ih (scan.read c) others).trans (read_of_isBlank scan first)

theorem behind_trimLeft (text : List Char) :
    outside.behind (Text.trimLeft text) = outside.behind text := by
  induction text with
  | nil => rfl
  | cons c rest ih =>
    by_cases blank : Text.isBlank c = true
    next =>
      have same : outside.read c = outside := (read_of_isBlank outside blank).2 rfl
      change _ = (outside.read c).behind rest
      rw [same, ← ih, Text.trimLeft, List.dropWhile_cons, if_pos blank]
      rfl
    next => rw [Text.trimLeft_cons (Bool.eq_false_iff.2 blank)]

theorem exists_blanks_trimRight (text : List Char) :
    ∃ blanks, text = Text.trimRight text ++ blanks ∧ ∀ c ∈ blanks, Text.isBlank c = true := by
  refine ⟨(text.reverse.takeWhile Text.isBlank).reverse, ?_, ?_⟩
  next =>
    rw [Text.trimRight, ← List.reverse_append, List.takeWhile_append_dropWhile,
      List.reverse_reverse]
  next =>
    intro c member
    exact List.mem_takeWhile_imp (List.mem_reverse.1 member)

-- A blank closes no quotation, and so the blanks around a text that closes all of its own go
-- without a change.
theorem behind_trim {text : List Char} (closed : outside.behind text = outside) :
    outside.behind (Text.trim text) = outside := by
  obtain ⟨blanks, whole, blank⟩ := exists_blanks_trimRight (Text.trimLeft text)
  rw [← behind_trimLeft, whole, behind_append, behind_of_isBlank _ blank] at closed
  exact closed

end WordScan

-- Whether a word is one quotation: its first quote is closed by its last and by none before.
def IsQuotation (word : List Char) : Prop :=
  ∃ content, word = '"' :: (content ++ ['"']) ∧ WordScan.quoted.StaysWithin content ∧
    WordScan.quoted.behind content = .quoted

structure IsFirstClosing (source inner : List Char) : Prop where
  closes : inner ++ tagClosing <+: source
  outside : WordScan.outside.behind inner = .outside
  first (earlier : List Char) : earlier ++ tagClosing <+: source →
    WordScan.outside.behind earlier = .outside → inner.length ≤ earlier.length

end Tag

namespace TagScan

open Tag (WordScan IsFirstClosing)

def ClosesAt (bytes : List UInt8) (offset : Nat) : Prop :=
  (bytes.take (offset + 2)).foldl feed outside = closed ∧
    ∀ count < offset + 2, (bytes.take count).foldl feed outside ≠ closed

def quoting : TagScan → WordScan
  | outside | dollar | closed => .outside
  | quoted => .quoted
  | escaped => .escaped

theorem quoting_read {scan : TagScan} {c : Char} (goesOn : scan.read c ≠ closed) :
    (scan.read c).quoting = scan.quoting.read c := by
  cases scan <;> grind [read, readOutside, quoting, WordScan.read]

theorem read_dollar {scan : TagScan} (goesOn : scan ≠ closed) (outside : scan.quoting = .outside) :
    scan.read '$' = dollar := by
  cases scan <;> first | rfl | contradiction

theorem quoting_of_read_eq_dollar {scan : TagScan} {c : Char} (found : scan.read c = dollar) :
    scan.quoting = .outside := by
  cases scan <;> grind [read, quoting]

theorem foldl_read_closed (text : List Char) : text.foldl read closed = closed := by
  induction text with
  | nil => rfl
  | cons c rest ih => exact ih

theorem foldl_read_ne_closed {text more : List Char} {scan : TagScan}
    (goesOn : (text ++ more).foldl read scan ≠ closed) : text.foldl read scan ≠ closed := by
  intro ended
  rw [List.foldl_append, ended, foldl_read_closed] at goesOn
  exact goesOn rfl

theorem quoting_foldl_read {text : List Char} (goesOn : text.foldl read outside ≠ closed) :
    (text.foldl read outside).quoting = WordScan.outside.behind text := by
  induction text using List.reverseRecOn with
  | nil => rfl
  | append_singleton text c ih =>
    have before := ih (foldl_read_ne_closed goesOn)
    rw [List.foldl_append, List.foldl_cons, List.foldl_nil] at *
    rw [quoting_read goesOn, before, WordScan.behind_append]
    rfl

theorem foldl_read_of_closing {part text : List Char} (closes : part ++ tagClosing <+: text)
    (plain : WordScan.outside.behind part = .outside) : text.foldl read outside = closed := by
  obtain ⟨after, rfl⟩ := closes
  rw [List.append_assoc, List.foldl_append, List.foldl_append]
  by_cases ended : part.foldl read outside = closed
  next => rw [ended, foldl_read_closed, foldl_read_closed]
  next =>
    have mark := read_dollar ended ((quoting_foldl_read ended).trans plain)
    rw [tagClosing, List.foldl_cons, mark]
    exact foldl_read_closed after

-- The search ends with the second character of a mark, and the first one is behind the part.
theorem exists_closing_of_foldl_read {text : List Char} (ended : text.foldl read outside = closed) :
    ∃ part, part ++ tagClosing <+: text ∧ WordScan.outside.behind part = .outside := by
  induction text using List.reverseRecOn with
  | nil => cases ended
  | append_singleton text c ih =>
    by_cases before : text.foldl read outside = closed
    next =>
      obtain ⟨part, closes, plain⟩ := ih before
      exact ⟨part, closes.trans (List.prefix_append text [c]), plain⟩
    next =>
      rw [List.foldl_append, List.foldl_cons, List.foldl_nil] at ended
      obtain ⟨half, rfl⟩ := read_eq_closed ended before
      rcases List.eq_nil_or_concat text with rfl | ⟨part, d, rfl⟩
      next => cases half
      next =>
        rw [List.concat_eq_append] at *
        have goesOn := foldl_read_ne_closed before
        rw [List.foldl_append, List.foldl_cons, List.foldl_nil] at half
        obtain rfl := read_eq_dollar half
        refine ⟨part, ⟨[], by simp [tagClosing]⟩, ?_⟩
        rw [← quoting_foldl_read goesOn]
        exact quoting_of_read_eq_dollar half

theorem foldl_read_of_split? {scan : TagScan} {source text after : List Char}
    (goesOn : scan ≠ closed) (found : split? scan source = some (text, after)) :
    text.foldl read scan = closed ∧
      ∀ part, part <+: text → part ≠ text → part.foldl read scan ≠ closed := by
  induction source generalizing scan text with
  | nil => simp [split?] at found
  | cons c rest ih =>
    simp only [split?, feedCharacter_eq] at found
    split at found
    next ends =>
      cases found
      refine ⟨ends, fun part inside shorter => ?_⟩
      cases part with
      | nil => exact goesOn
      | cons d part =>
        obtain ⟨rfl, nothing⟩ := List.cons_prefix_cons.1 inside
        exact absurd (by rw [List.prefix_nil.1 nothing]) shorter
    next notEnd =>
      obtain ⟨⟨inner, later⟩, split, same⟩ := Option.map_eq_some_iff.1 found
      cases same
      obtain ⟨ended, before⟩ := ih notEnd split
      refine ⟨ended, fun part inside shorter => ?_⟩
      cases part with
      | nil => exact goesOn
      | cons d part =>
        obtain ⟨rfl, tail⟩ := List.cons_prefix_cons.1 inside
        exact before part tail fun same => shorter (by rw [same])

variable {source text after : List Char}

theorem isFirstClosing_of_split? (found : split? outside source = some (text, after)) :
    ∃ inner, text = inner ++ tagClosing ∧ IsFirstClosing source inner := by
  obtain ⟨ended, before⟩ := foldl_read_of_split? (by decide) found
  obtain ⟨inner, closes, plain⟩ := exists_closing_of_foldl_read ended
  have whole := split?_append found
  have same : inner ++ tagClosing = text := by
    by_contra shorter
    exact before _ closes shorter (foldl_read_of_closing List.prefix_rfl plain)
  refine ⟨inner, same.symm, ⟨after, by rw [same, whole]⟩, plain, ?_⟩
  intro earlier closesEarlier plainEarlier
  by_contra shorter
  -- An earlier mark would be a part of the tag at which the search ends.
  have inside : earlier ++ tagClosing <+: text := by
    refine List.prefix_of_prefix_length_le closesEarlier ⟨after, whole.symm⟩ ?_
    rw [← same, List.length_append, List.length_append]
    omega
  refine before _ inside ?_ (foldl_read_of_closing List.prefix_rfl plainEarlier)
  rintro rfl
  have lengths := congrArg List.length same
  rw [List.length_append, List.length_append] at lengths
  omega

theorem foldl_feed_utf8Bytes (scan : TagScan) (text : List Char) :
    (Text.utf8Bytes text).foldl feed scan = text.foldl read scan := by
  induction text generalizing scan with
  | nil => rfl
  | cons c rest ih =>
    have first : (String.utf8EncodeChar c).foldl feed scan = scan.read c := feedCharacter_eq scan c
    rw [Text.utf8Bytes, List.flatMap_cons, List.foldl_append, first, List.foldl_cons]
    exact ih _

theorem length_utf8Bytes (text : List Char) : (Text.utf8Bytes text).length = byteLength text := by
  induction text with
  | nil => rfl
  | cons c rest ih =>
    rw [Text.utf8Bytes, List.flatMap_cons, List.length_append, String.length_utf8EncodeChar,
      byteLength]
    exact congrArg _ ih

theorem foldl_feed_closed (bytes : List UInt8) : bytes.foldl feed closed = closed := by
  induction bytes with
  | nil => rfl
  | cons byte rest ih => exact ih

theorem take_utf8Bytes_append (text more : List Char) :
    (Text.utf8Bytes (text ++ more)).take (byteLength text) = Text.utf8Bytes text := by
  rw [Text.utf8Bytes, List.flatMap_append]
  exact List.take_left' (length_utf8Bytes text)

theorem closesAt_of_split? {inner : List Char}
    (found : split? outside source = some (inner ++ tagClosing, after)) :
    ClosesAt (Text.utf8Bytes source) (byteLength inner) := by
  obtain ⟨ended, before⟩ := foldl_read_of_split? (by decide) found
  have whole := split?_append found
  have upTo : byteLength (inner ++ tagClosing) = byteLength inner + 2 := byteLength_append _ _
  have upToHalf : byteLength (inner ++ ['$']) = byteLength inner + 1 := byteLength_append _ _
  constructor
  next => rw [← upTo, whole, take_utf8Bytes_append, foldl_feed_utf8Bytes, ended]
  next =>
    intro count less stops
    have half :
        ((Text.utf8Bytes source).take (byteLength inner + 1)).foldl feed outside ≠ closed := by
      have split : source = inner ++ ['$'] ++ ('}' :: after) := by simp [whole, tagClosing]
      rw [← upToHalf, split, take_utf8Bytes_append, foldl_feed_utf8Bytes]
      exact before _ ⟨['}'], by simp [tagClosing]⟩ (by simp [tagClosing])
    obtain ⟨rest, longer⟩ :=
      List.take_prefix_take_left (l := Text.utf8Bytes source) (Nat.le_of_lt_succ less)
    rw [← longer, List.foldl_append, stops, foldl_feed_closed] at half
    exact half rfl

end TagScan

namespace Tag

namespace WordScan

-- What is pending while words are split: outside quotes a word that begins with none, and within
-- quotes all from the opening quote on.
def Pends (scan : WordScan) (pending : List Char) : Prop :=
  match scan with
  | outside => pending.reverse.head? ≠ some '"'
  | _ => ∃ content, pending.reverse = '"' :: content ∧ quoted.StaysWithin content ∧
      quoted.behind content = scan

theorem Pends.concat {scan : WordScan} {pending : List Char} {c : Char} (quotes : scan ≠ outside)
    (within : scan.read c ≠ outside) (pends : scan.Pends pending) :
    (scan.read c).Pends (c :: pending) := by
  have known : ∃ content, pending.reverse = '"' :: content ∧ quoted.StaysWithin content ∧
      quoted.behind content = scan := by
    cases scan <;> first | exact absurd rfl quotes | exact pends
  obtain ⟨content, begins, stays, rfl⟩ := known
  have longer : ∃ content', (c :: pending).reverse = '"' :: content' ∧
      quoted.StaysWithin content' ∧ quoted.behind content' = (quoted.behind content).read c :=
    ⟨content ++ [c], by simp [begins], stays.concat within, behind_append _ _ _⟩
  revert longer within
  cases (quoted.behind content).read c with
  | outside => exact fun within => absurd rfl within
  | quoted | escaped => exact fun _ longer => longer

theorem pends_nil : outside.Pends [] := nofun

theorem pends_singleton {c : Char} (notQuote : c ≠ '"') : outside.Pends [c] := by
  simpa [Pends] using notQuote

theorem Pends.cons {pending : List Char} {c : Char} (notQuote : c ≠ '"')
    (pends : outside.Pends pending) : outside.Pends (c :: pending) := by
  rcases List.eq_nil_or_concat pending with rfl | ⟨init, d, rfl⟩
  next => exact pends_singleton notQuote
  next => simpa [Pends] using pends

theorem pends_quote : quoted.Pends ['"'] :=
  ⟨[], rfl, fun part inside => by rw [List.prefix_nil.1 inside]; decide, rfl⟩

theorem Pends.isQuotation {pending : List Char} (pends : quoted.Pends pending) :
    IsQuotation ('"' :: pending).reverse := by
  obtain ⟨content, begins, stays, ends⟩ := pends
  exact ⟨content, by simp [begins], stays, ends⟩

end WordScan

theorem forall_mem_flush {P : List Char → Prop} {pending : List Char} {later : List (List Char)}
    (first : pending = [] ∨ P pending.reverse) (others : ∀ word ∈ later, P word) :
    ∀ word ∈ flush pending later, P word := by
  unfold flush
  split
  next => exact others
  next some =>
    have nonempty : pending ≠ [] := fun empty => some (by rw [empty]; rfl)
    exact List.forall_mem_cons.2 ⟨first.resolve_left nonempty, others⟩

def AreWhole (words : List (List Char)) : Prop :=
  ∀ word ∈ words, word.head? = some '"' → IsQuotation word

theorem AreWhole.cons {word : List Char} {later : List (List Char)}
    (first : word.head? = some '"' → IsQuotation word) (others : AreWhole later) :
    AreWhole (word :: later) :=
  List.forall_mem_cons.2 ⟨first, others⟩

theorem AreWhole.flush {pending : List Char} {later : List (List Char)}
    (pends : WordScan.outside.Pends pending) (others : AreWhole later) :
    AreWhole (flush pending later) :=
  forall_mem_flush (.inr fun quote => absurd quote pends) others

theorem exists_map {result : Except ParseError.Cause (List (List Char))}
    {change : List (List Char) → List (List Char)}
    (split : ∃ words, result = .ok words ∧ AreWhole words)
    (whole : ∀ words, AreWhole words → AreWhole (change words)) :
    ∃ words, result.map change = .ok words ∧ AreWhole words := by
  obtain ⟨words, rfl, quotations⟩ := split
  exact ⟨change words, rfl, whole words quotations⟩

theorem exists_splitWordsFrom {scan : WordScan} {pending text : List Char}
    (pends : scan.Pends pending) (closed : scan.behind text = .outside) :
    ∃ words, splitWordsFrom scan pending text = .ok words ∧ AreWhole words := by
  fun_induction splitWordsFrom scan pending text with
  | case1 pending => exact ⟨_, rfl, .flush pends nofun⟩
  | case2 | case3 => cases closed
  | case4 pending rest ih => exact exists_map (ih WordScan.pends_quote closed) fun _ => .flush pends
  | case5 pending rest _ ih =>
    exact exists_map (ih (WordScan.pends_singleton (by decide)) closed) fun _ => .flush pends
  | case6 pending c rest notQuote _ _ ih =>
    rw [WordScan.behind_cons_of_ne notQuote] at closed
    refine exists_map (ih WordScan.pends_nil closed) fun _ others => .flush pends ?_
    exact others.cons fun quote => absurd (Option.some.inj quote) notQuote
  | case7 pending c rest notQuote _ _ _ ih =>
    rw [WordScan.behind_cons_of_ne notQuote] at closed
    exact exists_map (ih WordScan.pends_nil closed) fun _ => .flush pends
  | case8 pending c rest notQuote _ _ _ ih =>
    rw [WordScan.behind_cons_of_ne notQuote] at closed
    exact ih (pends.cons notQuote) closed
  | case9 pending rest ih => exact ih (pends.concat (c := '\\') (by decide) (by decide)) closed
  | case10 pending rest _ ih =>
    refine exists_map (ih WordScan.pends_nil closed) fun _ others => others.cons fun _ => ?_
    exact pends.isQuotation
  | case11 pending c rest notBackslash notQuote ih =>
    have goesOn := WordScan.read_quoted notBackslash notQuote
    have longer := pends.concat (c := c) (by decide) (by simp [goesOn])
    rw [WordScan.behind, List.foldl_cons, goesOn] at closed
    rw [goesOn] at longer
    exact ih longer closed
  | case12 pending c rest ih => exact ih (pends.concat (by decide) (by simp [WordScan.read])) closed

theorem exists_splitWords {body : List Char} (closed : WordScan.outside.behind body = .outside) :
    ∃ words, splitWords body = .ok words ∧ AreWhole words :=
  exists_splitWordsFrom WordScan.pends_nil closed

end Tag

namespace Text.Quoted

open Tag (WordScan)

theorem resolve_of_staysWithin {content : List Char} (stays : WordScan.quoted.StaysWithin content)
    (ends : WordScan.quoted.behind content = .quoted) :
    (∃ text, resolve content = .ok text) ∨ ∃ c, resolve content = .error (.badEscape c) := by
  fun_induction resolve content with
  | case1 => exact .inl ⟨[], rfl⟩
  | case2 => cases ends
  | case3 c rest plain escape ih =>
    have tail := (WordScan.staysWithin_cons.1 (WordScan.staysWithin_cons.1 stays).2).2
    rcases ih tail ends with ⟨text, read⟩ | ⟨d, read⟩
    next => exact .inl ⟨plain :: text, by rw [read]; rfl⟩
    next => exact .inr ⟨d, by rw [read]; rfl⟩
  | case4 c rest => exact .inr ⟨c, rfl⟩
  | case5 tail => exact absurd rfl (stays ['"'] ⟨tail, rfl⟩)
  | case6 c rest single escape notQuote ih =>
    have notBackslash : c ≠ '\\' := ne_backslash single escape
    have goesOn := WordScan.read_quoted notBackslash notQuote
    have tail := (WordScan.staysWithin_cons.1 stays).2
    rw [goesOn] at tail
    rw [WordScan.behind, List.foldl_cons, goesOn] at ends
    rcases ih tail ends with ⟨text, read⟩ | ⟨d, read⟩
    next => exact .inl ⟨c :: text, by rw [read]; rfl⟩
    next => exact .inr ⟨d, by rw [read]; rfl⟩

end Text.Quoted

namespace Element

theorem ofWord_of_isQuotation {word : List Char} (quotation : Tag.IsQuotation word) :
    (∃ content, ofWord word = .ok (.text content)) ∨ ∃ c, ofWord word = .error (.textEscape c) := by
  obtain ⟨content, rfl, stays, ends⟩ := quotation
  have decoded : Text.Quoted.decode ('"' :: (content ++ ['"'])) = Text.Quoted.resolve content := by
    simp [Text.Quoted.decode]
  have quoted : ofWord ('"' :: (content ++ ['"'])) = ofQuoted ('"' :: (content ++ ['"'])) :=
    if_pos rfl
  rw [quoted, ofQuoted, decoded]
  rcases Text.Quoted.resolve_of_staysWithin stays ends with ⟨text, read⟩ | ⟨c, read⟩
  next => exact .inl ⟨String.ofList text, by rw [read]⟩
  next => exact .inr ⟨c, by rw [read]⟩

end Element

end Stencil
