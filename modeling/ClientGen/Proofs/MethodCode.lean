import ClientGen.Proofs.CodeWords
import ClientGen.Proofs.PathLiterals

/-! What the code of a method reads. The statements in front of the request are put together from pieces that
are closed in themselves, so they read what the pieces read. The request has the path for a template literal,
whose code is known where it is read as what the path stands for. -/

namespace ClientGen.TypeScript

def ClientMethod.inputs (method : ClientMethod) : Lines :=
  TypeScript.lines
    ["    const query: Record<string, unknown> = \x7b\x7d;",
      "    const headers: Record<string, string> = \x7b\x7d;"] ++
    method.fixedHeaders.flatMap Header.lines ++
    method.query.flatMap QueryEntry.lines ++
    method.headers.flatMap headerLines

/-- The lines between the signature of a method and its request. -/
def ClientMethod.statements (method : ClientMethod) : Lines :=
  method.inputs ++ credentialLines method.security ++ method.body.lines

def ClientMethod.literal (method : ClientMethod) : List Char :=
  '\x60' :: (method.path.flatMap LiteralPart.chars ++ ['\x60'])

/-- The code of a method reads a member: its statements do, or the path in its request. -/
def ClientMethod.Reads (method : ClientMethod) (names : List String) : Prop :=
  TypeScript.Reads method.statements.text names ∨ TypeScript.Reads method.literal names

theorem ClientMethod.lines_eq (method : ClientMethod) :
    method.lines =
      (DocComment.block (method.comment.map some)).lines [' ', ' '] ++ [method.signature] ++ method.statements ++
        [method.send, "  \x7d".toList] := by
  simp only [lines, statements, inputs, List.append_assoc]

theorem ClientMethod.send_eq (method : ClientMethod) :
    method.send =
      "    return this.request<".toList ++ method.result.toList ++ ">(".toList ++
        quotedText method.verb.text ++ ", ".toList ++ method.literal ++ ", query, headers, body);".toList := by
  have parted (before between after path : List Char) :
      before ++ (between ++ ['\x60']) ++ path ++ '\x60' :: after =
        before ++ between ++ '\x60' :: (path ++ ['\x60']) ++ after := by simp
  exact parted _ ", ".toList ", query, headers, body);".toList _

def fixedTexts : List String :=
  ["    headers[\"Content-Type\"] ??= \"application/json\";",
    "    const query: Record<string, unknown> = \x7b\x7d;", "    const headers: Record<string, string> = \x7b\x7d;",
    "    ", "      ", "query[", "headers[", "] = ", ";", "\n", "String(", "value;",
    "    if (", "!== undefined) \x7b", "    \x7d",
    "    for (const [name, value] of Object.entries(", "?? \x7b\x7d)) \x7b", ".replace(\"\x7bname\x7d\", name)",
    "    const body = undefined;", "    const form = new URLSearchParams();", "    const form = new FormData();",
    "form.append(", ", ", ");", "    const body = form.toString();", "    const body = form;",
    "    const body = JSON.stringify(\x7b", ": ", "    \x7d);", "    const body = JSON.stringify(",
    ", query, headers, body);"]

/-- None of them reads anything. -/
theorem uses_fixed {text : String} (member : text ∈ fixedTexts) : Uses text.toList [] := by
  have fixed : ∀ text ∈ fixedTexts, Fixed text.toList := by decide +kernel
  exact (fixed text member).uses

section
variable {name : String} {names : List String} {value : List Char}

theorem uses_expression {c : Char} (value : Expression) (named : ∀ name ∈ value.names, Named name)
    (separator : Separator c) : Uses (value.chars ++ [c]) value.names := by
  cases value with
  | literal json => exact uses_value json.sorted separator
  | argument name => exact uses_argument (named name (by simp [Expression.names])) separator

theorem uses_asString (uses : Uses (value ++ [')']) names) : Uses (asString value) names := by
  have opens : Uses "String(".toList [] := uses_fixed (by simp [fixedTexts])
  have shown : asString value = "String(".toList ++ (value ++ [')']) := List.append_assoc _ _ _
  rw [shown]
  exact opens.append uses

theorem uses_setEntry {object key : List Char} (opens : Uses (object ++ ['[']) []) (silent : Uses key [])
    (uses : Uses (value ++ [';']) names) : Uses (setEntry object key value) names := by
  have between : Uses "] = ".toList [] := uses_fixed (by simp [fixedTexts])
  have shown : setEntry object key value = object ++ ['['] ++ key ++ "] = ".toList ++ (value ++ [';']) := by
    simp only [setEntry, List.append_assoc, List.cons_append, List.nil_append]
  rw [shown]
  exact ((opens.append silent).append between).append uses

theorem uses_argument_between {before after : List Char} {c : Char} (opens : Uses before []) (named : Named name)
    (separator : Separator c) (ends : Uses after []) : Uses (before ++ argumentChars name ++ c :: after) [name] := by
  have shown : before ++ argumentChars name ++ c :: after = before ++ (argumentChars name ++ [c]) ++ after := by
    simp only [List.append_assoc, List.cons_append, List.nil_append]
  rw [shown]
  exact (opens.append (uses_argument named separator)).after ends

theorem Lines.text_append (before after : Lines) : Lines.text (before ++ after) = before.text ++ after.text :=
  List.flatMap_append

theorem Lines.text_flatMap {α : Type} (items : List α) (linesOf : α → Lines) :
    Lines.text (items.flatMap linesOf) = items.flatMap fun item => (linesOf item).text :=
  List.flatMap_assoc

theorem uses_lines {line : List Char} {rest : Lines} {others : List String} (uses : Uses line names)
    (later : Uses rest.text others) : Uses (Lines.text (line :: rest)) (names ++ others) := by
  have ends : Uses ['\n'] [] := uses_fixed (by simp [fixedTexts] : "\n" ∈ fixedTexts)
  exact (uses.after ends).append later

theorem uses_line {line : List Char} (uses : Uses line names) : Uses (Lines.text [line]) names := by
  have last : Uses (Lines.text []) [] := .nil
  simpa using uses_lines uses last

/-- Both the condition and the statement read the argument. -/
theorem uses_ifGiven {statement : List Char} (named : Named name) (uses : Uses statement names) :
    Uses (Lines.text (ifGiven name statement)) (name :: names) := by
  have opens : Uses "    if (".toList [] := uses_fixed (by simp [fixedTexts])
  have given : Uses "!== undefined) \x7b".toList [] := uses_fixed (by simp [fixedTexts])
  have indent : Uses "      ".toList [] := uses_fixed (by simp [fixedTexts])
  have ends : Uses "    \x7d".toList [] := uses_fixed (by simp [fixedTexts])
  have separator : Separator ' ' := separator_mark (by simp)
  have condition : Uses ("    if (".toList ++ argumentChars name ++ " !== undefined) \x7b".toList) [name] :=
    uses_argument_between opens named separator given
  have body : Uses ("      ".toList ++ statement) names := indent.append uses
  have last : Uses (Lines.text ["    \x7d".toList]) [] := uses_line ends
  have later : Uses (Lines.text ["      ".toList ++ statement, "    \x7d".toList]) names := by
    simpa using uses_lines body last
  exact uses_lines condition later

/-- A value as text reads what the value reads, in whatever statement it stands. -/
theorem uses_sendText {statement : List Char → List Char}
    (keeps : ∀ value names, Uses value names → Uses (statement value) names) (value : Expression)
    (named : ∀ name ∈ value.names, Named name) : Uses (Lines.text (sendText statement value)) value.names := by
  have text : Uses (asString value.chars) value.names :=
    uses_asString (uses_expression value named (separator_mark (by simp)))
  have sent := keeps _ _ text
  cases value with
  | literal json =>
    have indent : Uses "    ".toList [] := uses_fixed (by simp [fixedTexts])
    exact uses_line (indent.append sent)
  | argument name =>
    have given : Uses (Lines.text (ifGiven name (statement (asString (argumentChars name))))) [name, name] :=
      uses_ifGiven (named name (by simp [Expression.names])) sent
    exact given.congr (by simp [Expression.names])

theorem uses_header (header : NamedValue) (named : ∀ name ∈ header.value.names, Named name) :
    Uses (headerLines header).text header.value.names := by
  have object : Uses ("headers".toList ++ ['[']) [] := uses_fixed (by simp [fixedTexts] : "headers[" ∈ fixedTexts)
  apply uses_sendText ?_ header.value named
  intro value names uses
  have ends : Uses [';'] [] := uses_fixed (by simp [fixedTexts] : ";" ∈ fixedTexts)
  exact uses_setEntry object (uses_quoted header.name.toList) (uses.after ends)

theorem uses_formField (field : NamedValue) (named : ∀ name ∈ field.value.names, Named name) :
    Uses (formFieldLines field).text field.value.names := by
  apply uses_sendText ?_ field.value named
  intro value names uses
  have opens : Uses "form.append(".toList [] := uses_fixed (by simp [fixedTexts])
  have between : Uses ", ".toList [] := uses_fixed (by simp [fixedTexts])
  have ends : Uses ");".toList [] := uses_fixed (by simp [fixedTexts])
  exact (((opens.append (uses_quoted field.name.toList)).append between).append uses).after ends

theorem uses_query (entry : QueryEntry) (named : ∀ name ∈ entry.names, Named name) :
    Uses entry.lines.text entry.names := by
  have object : Uses ("query".toList ++ ['[']) [] := uses_fixed (by simp [fixedTexts] : "query[" ∈ fixedTexts)
  cases entry with
  | field key value =>
    have indent : Uses "    ".toList [] := uses_fixed (by simp [fixedTexts])
    have read : Uses (value.chars ++ [';']) value.names := uses_expression value named (separator_mark (by simp))
    exact uses_line (indent.append (uses_setEntry object (uses_quoted key.toList) read))
  | each pattern name =>
    have opens : Uses "    for (const [name, value] of Object.entries(".toList [] := uses_fixed (by simp [fixedTexts])
    have given : Uses "?? \x7b\x7d)) \x7b".toList [] := uses_fixed (by simp [fixedTexts])
    have indent : Uses "      ".toList [] := uses_fixed (by simp [fixedTexts])
    have replaced : Uses ".replace(\"\x7bname\x7d\", name)".toList [] := uses_fixed (by simp [fixedTexts])
    have sent : Uses ("value".toList ++ [';']) [] := uses_fixed (by simp [fixedTexts] : "value;" ∈ fixedTexts)
    have ends : Uses "    \x7d".toList [] := uses_fixed (by simp [fixedTexts])
    have key := (uses_quoted pattern.toList).after replaced
    have separator : Separator ' ' := separator_mark (by simp)
    have argument := uses_argument_between opens (named name (by simp [QueryEntry.names])) separator given
    exact uses_lines argument (uses_lines (indent.append (uses_setEntry object key sent)) (uses_line ends))

theorem uses_bodyField (field : NamedValue) (named : ∀ name ∈ field.value.names, Named name) :
    Uses (bodyFieldLine field) field.value.names := by
  have indent : Uses "      ".toList [] := uses_fixed (by simp [fixedTexts])
  have between : Uses ": ".toList [] := uses_fixed (by simp [fixedTexts])
  have value : Uses (field.value.chars ++ [',']) field.value.names :=
    uses_expression field.value named (separator_mark (by simp))
  have whole := ((indent.append (uses_quoted field.name.toList)).append between).append value
  rwa [← List.append_assoc] at whole

/-- Lines for each of some fields, between others that read nothing. -/
theorem uses_fields {before after : Lines} {fields : List NamedValue} {linesOf : NamedValue → Lines}
    (opens : Uses before.text [])
    (each : ∀ field ∈ fields, Uses (linesOf field).text field.value.names) (ends : Uses after.text []) :
    Uses (Lines.text (before ++ fields.flatMap linesOf ++ after)) (fields.flatMap fun field => field.value.names) := by
  rw [Lines.text_append, Lines.text_append, Lines.text_flatMap]
  exact (opens.append (.flatMap each)).after ends

theorem uses_body (body : Body) (named : ∀ name ∈ body.names, Named name) : Uses body.lines.text body.names := by
  have type : Uses jsonContentType [] := uses_fixed (List.mem_cons_self : _ ∈ fixedTexts)
  cases body with
  | none =>
    have line : Uses "    const body = undefined;".toList [] := uses_fixed (by simp [fixedTexts])
    exact uses_line line
  | form encoded fields =>
    have each : ∀ field ∈ fields, Uses (formFieldLines field).text field.value.names := by
      intro field member
      apply uses_formField
      intro name inside
      exact named name (List.mem_flatMap.mpr ⟨field, member, inside⟩)
    cases encoded with
    | true =>
      have opens : Uses ("    const form = new ".toList ++ "URLSearchParams".toList ++ "();".toList) [] :=
        uses_fixed (by simp [fixedTexts] : "    const form = new URLSearchParams();" ∈ fixedTexts)
      have ends : Uses ("    const body = ".toList ++ "form.toString()".toList ++ [';']) [] :=
        uses_fixed (by simp [fixedTexts] : "    const body = form.toString();" ∈ fixedTexts)
      exact uses_fields (uses_line opens) each (uses_line ends)
    | false =>
      have opens : Uses ("    const form = new ".toList ++ "FormData".toList ++ "();".toList) [] :=
        uses_fixed (by simp [fixedTexts] : "    const form = new FormData();" ∈ fixedTexts)
      have ends : Uses ("    const body = ".toList ++ "form".toList ++ [';']) [] :=
        uses_fixed (by simp [fixedTexts] : "    const body = form;" ∈ fixedTexts)
      exact uses_fields (uses_line opens) each (uses_line ends)
  | members fields =>
    have opens : Uses "    const body = JSON.stringify(\x7b".toList [] := uses_fixed (by simp [fixedTexts])
    have ends : Uses "    \x7d);".toList [] := uses_fixed (by simp [fixedTexts])
    have each : ∀ field ∈ fields, Uses (Lines.text [bodyFieldLine field]) field.value.names := by
      intro field member
      apply uses_line
      apply uses_bodyField
      intro name inside
      exact named name (List.mem_flatMap.mpr ⟨field, member, inside⟩)
    have lines := uses_fields (uses_lines type (uses_line opens)) each (uses_line ends)
    rwa [← List.map_eq_flatMap] at lines
  | whole name =>
    have opens : Uses "    const body = JSON.stringify(".toList [] := uses_fixed (by simp [fixedTexts])
    have ends : Uses [';'] [] := uses_fixed (by simp [fixedTexts] : ";" ∈ fixedTexts)
    have separator : Separator ')' := separator_mark (by simp)
    have argument := uses_argument_between opens (named name (by simp [Body.names])) separator ends
    exact uses_lines type (uses_line argument)

end

theorem uses_fixedHeader (header : Header) : Uses (Header.lines header).text [] := by
  have indent : Uses "    ".toList [] := uses_fixed (by simp [fixedTexts])
  have object : Uses ("headers".toList ++ ['[']) [] := uses_fixed (by simp [fixedTexts] : "headers[" ∈ fixedTexts)
  have ends : Uses [';'] [] := uses_fixed (by simp [fixedTexts] : ";" ∈ fixedTexts)
  have value := (uses_quoted header.value.toList).after ends
  exact uses_line (indent.append (uses_setEntry object (uses_quoted header.name.toList) value))

end ClientGen.TypeScript

namespace ClientGen

/-- The flag for a type of schemes. Those of vendors have none. -/
def Security.flag (security : Security) : SecurityType → Bool
  | .oauth2 => security.bearerToken
  | .apiKey => security.apiKey
  | .basic => security.basicAuth
  | .unknown => false

def Security.only : SecurityType → Security
  | .oauth2 => { bearerToken := true }
  | .apiKey => { apiKey := true }
  | .basic => { basicAuth := true }
  | .unknown => {}

end ClientGen

namespace ClientGen.TypeScript

/-- Every type has lines of its own. -/
theorem credentialLines_eq (security : Security) :
    credentialLines security =
      [SecurityType.oauth2, .apiKey, .basic].flatMap fun type =>
        if security.flag type then credentialLines (.only type) else [] := by
  simp [credentialLines, Security.flag, Security.only]

theorem fenced_credentials (security : Security) (type : SecurityType) :
    Fenced (Lines.text (if security.flag type then credentialLines (.only type) else [])) := by
  have own : Fenced (credentialLines (.only type)).text := by
    cases type with
    | unknown => exact .nil
    | oauth2 | apiKey | basic => exact .of_end (by decide +kernel) (by decide +kernel)
  split
  · exact own
  · exact .nil

theorem credentials_apart (type : SecurityType) (names : List String) :
    ¬ Reads (credentialLines (.only type)).text ("parameters" :: names) := by
  have others : ∀ word ∈ codeWords (credentialLines (.only type)).text,
      (namesOf word).head? ≠ some "parameters".toList := by
    cases type <;> decide +kernel
  rintro ⟨word, member, leads⟩
  exact others word member (head_of_leads leads)

/-- What a method reads to authenticate itself is what it reads for each type that it has a flag for. -/
theorem reads_credentials (security : Security) (names : List String) :
    Reads (credentialLines security).text names ↔
      ∃ type, security.flag type = true ∧ Reads (credentialLines (.only type)).text names := by
  rw [credentialLines_eq, Lines.text_flatMap, reads_flatMap fun type _ => fenced_credentials security type]
  constructor
  · rintro ⟨type, _, read⟩
    by_cases flag : security.flag type = true
    · rw [if_pos flag] at read
      exact ⟨type, flag, read⟩
    · rw [if_neg flag] at read
      exact absurd read not_reads_nil
  · rintro ⟨type, flag, read⟩
    refine ⟨type, ?_, by rwa [if_pos flag]⟩
    cases type <;> simp [Security.flag] at flag ⊢

section
variable {method : ClientMethod} (named : ∀ name ∈ method.names, Named name)
include named

theorem uses_inputs : Uses method.inputs.text
    (method.query.flatMap QueryEntry.names ++ method.headers.flatMap fun header => header.value.names) := by
  have first : Uses "    const query: Record<string, unknown> = \x7b\x7d;".toList [] :=
    uses_fixed (by simp [fixedTexts])
  have second : Uses "    const headers: Record<string, string> = \x7b\x7d;".toList [] :=
    uses_fixed (by simp [fixedTexts])
  have opens := uses_lines first (uses_line second)
  have fixed : Uses (method.fixedHeaders.flatMap fun header => (Header.lines header).text)
      (method.fixedHeaders.flatMap fun _ => []) := .flatMap fun header _ => uses_fixedHeader header
  have query : ∀ entry ∈ method.query, Uses entry.lines.text entry.names := by
    intro entry member
    apply uses_query
    intro name inside
    apply named
    simp only [ClientMethod.names, List.mem_append, List.mem_flatMap]
    exact .inl (.inl ⟨entry, member, inside⟩)
  have headers : ∀ header ∈ method.headers, Uses (headerLines header).text header.value.names := by
    intro header member
    apply uses_header
    intro name inside
    apply named
    simp only [ClientMethod.names, List.mem_append, List.mem_flatMap]
    exact .inl (.inr ⟨header, member, inside⟩)
  have whole := ((opens.append fixed).append (.flatMap query)).append (.flatMap headers)
  rw [ClientMethod.inputs, Lines.text_append, Lines.text_append, Lines.text_append, Lines.text_flatMap,
    Lines.text_flatMap, Lines.text_flatMap]
  exact whole.congr (by simp)

theorem reads_statements {names : List String} :
    Reads method.statements.text names ↔ Reads method.inputs.text names ∨
      Reads (credentialLines method.security).text names ∨ Reads method.body.lines.text names := by
  have inputs := (uses_inputs named).fenced
  have credentials : Fenced (credentialLines method.security).text := by
    rw [credentialLines_eq, Lines.text_flatMap]
    exact .flatMap fun type _ => fenced_credentials method.security type
  rw [ClientMethod.statements, Lines.text_append, Lines.text_append, List.append_assoc, inputs.reads_append,
    credentials.reads_append]

theorem body_named : ∀ name ∈ method.body.names, Named name :=
  fun name inside => named name (by simp [ClientMethod.names, inside])

/-- The statements of a method read the arguments that it is made with. -/
theorem reads_argument_iff {name : String} :
    Reads method.statements.text ["parameters", name] ↔ name ∈ method.names := by
  have body := uses_body method.body (body_named named)
  have apart : ¬ Reads (credentialLines method.security).text ["parameters", name] := by
    rw [reads_credentials]
    rintro ⟨type, _, read⟩
    exact credentials_apart type [name] read
  rw [reads_statements named, (uses_inputs named).arguments, body.arguments, ClientMethod.names]
  simp [apart, or_assoc]

/-- Of the client they read what authenticates the method. -/
theorem reads_client_iff {members : List String} :
    Reads method.statements.text ("this" :: members) ↔
      Reads (credentialLines method.security).text ("this" :: members) := by
  have body := uses_body method.body (body_named named)
  rw [reads_statements named]
  simp [(uses_inputs named).apart members, body.apart members]

end

end ClientGen.TypeScript
