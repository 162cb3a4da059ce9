import Stencil.Proofs.Execution.Delivery
import Stencil.Proofs.Response.Declared
import Stencil.Proofs.Text.LineBreak

set_option autoImplicit false

namespace Stencil

open Text (IsMark IsPlain Unbroken headOf latin1Bytes readHead?)

namespace Cookie

def line (cookie : Cookie) : String :=
  "Set-Cookie: " ++ cookie.name ++ "=\"" ++ cookie.value ++ "\"" ++
    cookie.domain.elim "" ("; Domain=" ++ ·) ++
    cookie.path.elim "" ("; Path=" ++ ·) ++
    cookie.maxAge.elim "" (fun seconds => "; Max-Age=" ++ toString seconds)

def texts (cookie : Cookie) : List String :=
  cookie.name :: cookie.value :: (cookie.domain.toList ++ cookie.path.toList)

theorem latin1Bytes_headerLines (cookies : List Cookie) :
    latin1Bytes (String.join (cookies.map headerLine)).toList =
      (cookies.map line).flatMap fun line => latin1Bytes line.toList ++ [13, 10] := by
  have each (cookie : Cookie) :
      latin1Bytes cookie.headerLine.toList = latin1Bytes cookie.line.toList ++ [13, 10] := by
    rw [← Text.latin1Bytes_lineEnd, ← Text.latin1Bytes_append]
    rfl
  rw [String.toList_join, latin1Bytes, List.flatMap_map, List.map_flatMap, List.flatMap_map]
  exact List.flatMap_congr fun cookie _ => each cookie

theorem isPlain_line_iff (cookie : Cookie) :
    IsPlain cookie.line ↔ ∀ text ∈ cookie.texts, IsPlain text := by
  -- Each part that may be missing is set apart from what follows it, so the last one comes first.
  have spelled : (cookie.maxAge.elim "" fun seconds => "; Max-Age=" ++ toString seconds) =
      (cookie.maxAge.map toString).elim "" ("; Max-Age=" ++ ·) := by
    cases cookie.maxAge <;> rfl
  have ages : ∀ age ∈ cookie.maxAge.map toString, IsPlain age := by
    intro age given
    obtain ⟨seconds, -, rfl⟩ := Option.map_eq_some_iff.1 given
    exact Text.unbroken_of_not_mem (Text.isMark_toString seconds).2.1
  have atEnd : ([] : List Char).head? ≠ some '\n' := nofun
  obtain ⟨ageApart, age⟩ :=
    (by decide : IsMark "; Max-Age=").attribute (cookie.maxAge.map toString) atEnd
  obtain ⟨pathApart, path⟩ := (by decide : IsMark "; Path=").attribute cookie.path ageApart
  have domain := ((by decide : IsMark "; Domain=").attribute cookie.domain pathApart).2
  have rest := age.2 ⟨ages, .nil⟩
  rw [List.append_nil] at domain path rest
  rw [IsPlain]
  unfold line
  rw [spelled]
  simp only [String.toList_append, List.append_assoc]
  rw [IsMark.unbroken_append (by decide), IsMark.unbroken_between (by decide),
    IsMark.unbroken_between (by decide), domain, path]
  simp only [texts, List.forall_mem_cons, List.forall_mem_append, Option.mem_toList, IsPlain,
    Option.mem_def, rest, and_true]

end Cookie

namespace Configuration

def statusLine (configuration : Configuration) : String :=
  "HTTP/1.1 " ++ toString configuration.statusCode ++ " " ++ configuration.statusText

def contentTypeLine (configuration : Configuration) : String :=
  "Content-Type: " ++ configuration.mimeType ++ configuration.charsetNote

def lines (configuration : Configuration) : List String :=
  configuration.statusLine :: configuration.contentTypeLine ::
    configuration.cookies.map Cookie.line

def lineBytes (configuration : Configuration) : List (List UInt8) :=
  configuration.lines.map fun line => latin1Bytes line.toList

def texts (configuration : Configuration) : List String :=
  configuration.statusText :: configuration.mimeType :: configuration.cookies.flatMap Cookie.texts

theorem headerBytes_eq (configuration : Configuration) :
    configuration.headerBytes = headOf configuration.lineBytes := by
  unfold headerBytes header
  simp only [Text.latin1Bytes_append, Text.latin1Bytes_lineEnd, Cookie.latin1Bytes_headerLines, headOf,
    lineBytes, lines, statusLine, contentTypeLine, List.map_cons, List.flatMap_cons, List.append_assoc]
  simp only [List.cons_append, List.nil_append, List.flatMap_map]

theorem isPlain_statusLine_iff (configuration : Configuration) :
    IsPlain configuration.statusLine ↔ IsPlain configuration.statusText := by
  rw [IsPlain]
  unfold statusLine
  simp only [String.toList_append, List.append_assoc]
  rw [IsMark.unbroken_append (by decide), (Text.isMark_toString _).unbroken_append,
    IsMark.unbroken_append (by decide), IsPlain]

theorem isPlain_contentTypeLine_iff {configuration : Configuration}
    (label : Text.Charset.ofLabel? configuration.encoding = some configuration.charset) :
    IsPlain configuration.contentTypeLine ↔ IsPlain configuration.mimeType := by
  have plain : '\r' ∉ configuration.encoding.toList := Text.Charset.not_mem_of_ofLabel? label
  rw [IsPlain]
  unfold contentTypeLine charsetNote
  simp only [String.toList_append, List.append_assoc]
  rw [IsMark.unbroken_append (by decide), IsPlain]
  split
  next =>
    rw [String.toList_append, IsMark.unbroken_between (by decide)]
    exact and_iff_left (Text.unbroken_of_not_mem plain)
  next => rw [String.toList_empty, List.append_nil]

theorem forall_isPlain_lines_iff {configuration : Configuration}
    (label : Text.Charset.ofLabel? configuration.encoding = some configuration.charset) :
    (∀ line ∈ configuration.lines, IsPlain line) ↔ ∀ text ∈ configuration.texts, IsPlain text := by
  simp only [lines, texts, List.forall_mem_cons, List.forall_mem_map, List.forall_mem_flatMap,
    isPlain_statusLine_iff, isPlain_contentTypeLine_iff label, Cookie.isPlain_line_iff]

theorem ne_nil_of_mem_lineBytes {configuration : Configuration} {line : List UInt8}
    (member : line ∈ configuration.lineBytes) : line ≠ [] := by
  have begun (start text : String) (some : start.toList ≠ []) :
      latin1Bytes (start ++ text).toList ≠ [] := by
    simp [latin1Bytes, some]
  obtain ⟨text, listed, rfl⟩ := List.mem_map.1 member
  rcases List.mem_cons.1 listed with rfl | listed
  next =>
    unfold statusLine
    simp only [String.append_assoc]
    exact begun _ _ (by decide)
  rcases List.mem_cons.1 listed with rfl | listed
  next =>
    unfold contentTypeLine
    simp only [String.append_assoc]
    exact begun _ _ (by decide)
  next =>
    obtain ⟨cookie, -, rfl⟩ := List.mem_map.1 listed
    unfold Cookie.line
    simp only [String.append_assoc]
    exact begun _ _ (by decide)

/-- A header that is sent in front of a body is found again, line by line, and so is the body,
exactly if no text in it has a line break. -/
theorem readHead?_headerBytes_iff {configuration : Configuration}
    (label : Text.Charset.ofLabel? configuration.encoding = some configuration.charset)
    (body : List UInt8) :
    readHead? (configuration.headerBytes ++ body) = some (configuration.lineBytes, body) ↔
      ∀ text ∈ configuration.texts, IsPlain text := by
  rw [headerBytes_eq, Text.readHead?_headOf_iff (by simp [lineBytes, lines])
    fun _ => ne_nil_of_mem_lineBytes, ← forall_isPlain_lines_iff label]
  simp only [lineBytes, List.forall_mem_map, Text.unbroken_latin1Bytes, IsPlain]

end Configuration

theorem Builtin.call_setMimeType {response : Response} (isOpen : response.headerGenerated = false)
    (mimeType : String) (rest : List Value) :
    Builtin.setMimeType.call ⟨.text mimeType :: rest, response⟩ =
      (.ok (), ⟨rest,
        { response with configuration := { response.configuration with mimeType } }⟩) := by
  have set : Response.setMimeType mimeType response =
      (.ok (), { response with configuration := { response.configuration with mimeType } }) :=
    ((Response.Setter.mimeType mimeType).apply_eq response).trans (if_neg (by simp [isOpen]))
  have called : Builtin.setMimeType.call ⟨.text mimeType :: rest, response⟩ =
      Evaluation.respond (Response.setMimeType mimeType) ⟨rest, response⟩ := rfl
  rw [called, Evaluation.respond_apply, set]
  rfl

namespace Session

open Response

-- The cookie that a step adds, by what it answers.
def Step.added : Step → Except Halt (Option String) → List Cookie
  | act (.configure (.cookie cookie)), .ok _ => [cookie]
  | _, _ => []

theorem Step.perform_preamble (step : Step) (response : Response) :
    (step.perform response).2.emitsHeader = response.emitsHeader ∧
      (step.perform response).2.configuration.cookies =
        response.configuration.cookies ++ step.added (step.perform response).1 := by
  cases step with
  | act action =>
    refine ⟨(action.perform_fixed response).1, ?_⟩
    rw [perform]
    have performed := action.performed response
    generalize action.perform response = ran at performed
    cases performed with
    | wrote written => cases written <;> exact (List.append_nil _).symm
    | @configured setter isOpen allowed =>
      cases setter with
      | cookie => rfl
      | _ => exact (List.append_nil _).symm
    | @frozen setter => cases setter <;> exact (List.append_nil _).symm
    | @unsupported setter => cases setter <;> exact (List.append_nil _).symm
    | _ => exact (List.append_nil _).symm
  | execute document =>
    have follows := document.follows_executeWithin roundLimit { response }
    obtain ⟨mimeType, configuration⟩ := follows.configuration
    refine ⟨follows.emitsHeader, ?_⟩
    exact (congrArg Configuration.cookies configuration).trans (List.append_nil _).symm

theorem series_preamble (steps : List Step) (response : Response) :
    (series Step.perform steps response).2.emitsHeader = response.emitsHeader ∧
      (series Step.perform steps response).2.configuration.cookies =
        response.configuration.cookies ++
          (steps.zip (series Step.perform steps response).1).flatMap fun exchange =>
            exchange.1.added exchange.2 := by
  induction steps generalizing response with
  | nil => exact ⟨rfl, (List.append_nil _).symm⟩
  | cons first rest ih =>
    obtain ⟨emits, cookies⟩ := first.perform_preamble response
    obtain ⟨emitsAfter, cookiesAfter⟩ := ih (first.perform response).2
    rw [series_cons]
    refine ⟨emitsAfter.trans emits, cookiesAfter.trans ?_⟩
    rw [cookies, List.append_assoc]
    rfl

/-- Whatever a host and its documents do, the sink holds nothing until a write gets through, and then
a header with the lines of its configuration, and behind it what was written. A reader finds these
lines, one for each cookie in the order in which they were added, and this body, exactly if no text
in the header has a line break. Any text that a document gives as the mime type goes there. -/
theorem header_framed (refuses : Nat → Bool) (parameters persistent : Scope) (cookies : List Cookie)
    (steps : List Step) :
    let start := fresh true refuses parameters persistent cookies
    let answers := (series Step.perform steps start).1
    let response := (series Step.perform steps start).2
    let configuration := response.configuration
    let written := body configuration.charset steps start
    (configuration.cookies =
      cookies ++ (steps.zip answers).flatMap fun exchange => exchange.1.added exchange.2) ∧
    (∀ content : Content, (content.write response).1 = .ok () →
      (content.write response).2.headerGenerated = true) ∧
    (response.headerGenerated = false → response.sink.bytes = []) ∧
    (response.headerGenerated = true →
      response.sink.bytes = configuration.headerBytes ++ written ∧
      (readHead? response.sink.bytes = some (configuration.lineBytes, written) ↔
        ∀ text ∈ configuration.texts, IsPlain text)) ∧
    (∀ current : Response, current.headerGenerated = false → ∀ mimeType rest,
      Builtin.setMimeType.call ⟨.text mimeType :: rest, current⟩ =
        (.ok (), ⟨rest,
          { current with configuration := { current.configuration with mimeType } }⟩)) := by
  intro start answers response configuration written
  have coherent : Coherent refuses response :=
    coherent_series steps (coherent_fresh true refuses parameters persistent cookies)
  have holds : Holds (fun charset => [] ++ body charset steps start) response :=
    holds_series (holds_fresh true refuses parameters persistent cookies) steps
  obtain ⟨emits, added⟩ : response.emitsHeader = true ∧ _ := series_preamble steps start
  refine ⟨added, fun content succeeds => ?_, fun isOpen => (holds.unwritten isOpen).1,
    fun generated => ?_, fun current isOpen => Builtin.call_setMimeType isOpen⟩
  next =>
    have wrote := content.written response
    generalize content.write response = ran at wrote succeeds
    cases wrote with
    | delivered => rfl
    | _ => cases succeeds
  next =>
    have bytes : response.sink.bytes = configuration.headerBytes ++ written := by
      rw [holds.written generated, preamble, if_pos emits, List.nil_append]
    rw [bytes]
    exact ⟨rfl, Configuration.readHead?_headerBytes_iff coherent.label written⟩

theorem header_framed_with_cookie :
    let steps : List Step :=
      [.act (.configure (.cookie { name := "id", value := "1", path := some "/" })),
        .execute ⟨[.output [.text "text/plain", .call "setMimeType"], .text "x"]⟩]
    let response := (series Step.perform steps (fresh true (fun _ => false) {} {} [])).2
    readHead? response.sink.bytes = some
      (["HTTP/1.1 200 OK", "Content-Type: text/plain; charset=UTF-8",
          "Set-Cookie: id=\"1\"; Path=/"].map fun line => latin1Bytes line.toList,
        latin1Bytes "x\n".toList) := by
  intro steps response
  have generated : response.headerGenerated = true := by decide +kernel
  have plain : ∀ text ∈ response.configuration.texts, IsPlain text := by decide +kernel
  have framed := (header_framed (fun _ => false) {} {} [] steps).2.2.2.1 generated
  exact (framed.2.2 plain).trans (by decide +kernel)

-- A mime type with a line break in it makes one line more.
theorem execute_broken_mimeType :
    let document : Document :=
      ⟨[.output [.text "a/b\r\nX-Extra: 1", .call "setMimeType"], .text "x"]⟩
    let response :=
      ((Step.execute document).perform (fresh true (fun _ => false) {} {} [])).2
    response.configuration.cookies = [] ∧
      readHead? response.sink.bytes = some
        (["HTTP/1.1 200 OK", "Content-Type: a/b", "X-Extra: 1"].map fun line =>
            latin1Bytes line.toList,
          latin1Bytes "x\n".toList) := by
  decide +kernel

end Session

end Stencil
