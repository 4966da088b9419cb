import ClientGen.Json.Order
import ClientGen.TypeScript.Client.Basic
import ClientGen.TypeScript.TypeText

/-! The text of a client, line by line. Values are written as JSON, objects with their keys in
order. -/

namespace ClientGen.TypeScript

/-- Lines of text, without the breaks that end them. -/
abbrev Lines := List (List Char)

def lines (texts : List String) : Lines := texts.map String.toList

def Lines.text (lines : Lines) : List Char := lines.flatMap fun line => line ++ ['\n']

def quotedJson (value : Json) : List Char := value.sorted.chars

def quotedText (text : String) : List Char := Json.quoted text.toList

def Expression.chars : Expression → List Char
  | literal value => quotedJson value
  | argument name => argumentChars name

/-- `String(…)` -/
def asString (chars : List Char) : List Char := "String(".toList ++ chars ++ [')']

namespace DocComment

/-- A line of a block; an empty one ends with the asterisk. -/
def blockLine (indent : List Char) : Option (List Char) → List Char
  | some text => indent ++ ' ' :: '*' :: ' ' :: text
  | none => indent ++ [' ', '*']

def lines (indent : List Char) : DocComment → Lines
  | line text => [indent ++ "/** ".toList ++ text ++ " */".toList]
  | block texts =>
    (indent ++ "/**".toList) :: (texts.map (blockLine indent) ++ [indent ++ " */".toList])

end DocComment

namespace InterfaceMember

def lines (member : InterfaceMember) : Lines :=
  let comment :=
    match member.comment with
    | some text => (DocComment.line text).lines [' ', ' ']
    | none => []
  comment ++
    [' ' :: ' ' :: (member.key ++ optionalMark member.required ++ ':' :: ' ' :: member.type ++ [';'])]

end InterfaceMember

def Declaration.lines (declaration : Declaration) : Lines :=
  let gap := if declaration.apart then [[]] else []
  let comment :=
    match declaration.comment with
    | some comment => comment.lines []
    | none => []
  let name := declaration.name.toList
  let body :=
    match declaration.type with
    | .alias type => ["export type ".toList ++ name ++ " = ".toList ++ type ++ [';']]
    | .interface members =>
      ("export interface ".toList ++ name ++ " \x7b".toList) ::
        (members.flatMap InterfaceMember.lines ++ [['\x7d']])
  gap ++ comment ++ body

/-- A statement that sets an entry of an object. -/
def setEntry (object key value : List Char) : List Char :=
  object ++ '[' :: key ++ "] = ".toList ++ value ++ [';']

/-- Statements for an argument that may be left out. -/
def ifGiven (name : String) (statement : List Char) : Lines :=
  ["    if (".toList ++ argumentChars name ++ " !== undefined) \x7b".toList,
    "      ".toList ++ statement,
    "    \x7d".toList]

def Header.lines (header : Header) : Lines :=
  ["    ".toList ++ setEntry "headers".toList (quotedText header.name) (quotedText header.value)]

def QueryEntry.lines : QueryEntry → Lines
  | field key value => ["    ".toList ++ setEntry "query".toList (quotedText key) value.chars]
  | each pattern name =>
    ["    for (const [name, value] of Object.entries(".toList ++ argumentChars name ++
        " ?? \x7b\x7d)) \x7b".toList,
      "      ".toList ++
        setEntry "query".toList
          (quotedText pattern ++ ".replace(\"\x7bname\x7d\", name)".toList) "value".toList,
      "    \x7d".toList]

/-- A value as text, sent as a statement says; arguments only if they are given. -/
def sendText (statement : List Char → List Char) : Expression → Lines
  | .literal value => ["    ".toList ++ statement (asString (quotedJson value))]
  | .argument name => ifGiven name (statement (asString (argumentChars name)))

def headerLines (header : NamedValue) : Lines :=
  sendText (setEntry "headers".toList (quotedText header.name)) header.value

def formFieldLines (field : NamedValue) : Lines :=
  sendText
    (fun value => "form.append(".toList ++ quotedText field.name ++ ", ".toList ++ value ++ ");".toList)
    field.value

def bodyFieldLine (field : NamedValue) : List Char :=
  "      ".toList ++ quotedText field.name ++ ": ".toList ++ field.value.chars ++ [',']

def jsonContentType : List Char := "    headers[\"Content-Type\"] ??= \"application/json\";".toList

def Body.lines : Body → Lines
  | none => ["    const body = undefined;".toList]
  | form encoded fields =>
    let (kind, body) :=
      if encoded then ("URLSearchParams", "form.toString()") else ("FormData", "form")
    ["    const form = new ".toList ++ kind.toList ++ "();".toList] ++
      fields.flatMap formFieldLines ++
      ["    const body = ".toList ++ body.toList ++ [';']]
  | members fields =>
    [jsonContentType, "    const body = JSON.stringify(\x7b".toList] ++
      fields.map bodyFieldLine ++ ["    \x7d);".toList]
  | whole name =>
    [jsonContentType,
      "    const body = JSON.stringify(".toList ++ argumentChars name ++ ");".toList]

/-- What a method adds to the headers to authenticate itself. -/
def credentialLines (security : Security) : Lines :=
  (if security.bearerToken then
    lines
      ["    if (this.options.token) \x7b",
        "      headers[\"Authorization\"] = `Bearer $\x7bthis.options.token\x7d`;",
        "    \x7d"]
    else []) ++
  (if security.apiKey then
    lines
      ["    if (this.options.apiKey) \x7b",
        "      headers[this.options.apiKeyHeader ?? \"api_key\"] = this.options.apiKey;",
        "    \x7d"]
    else []) ++
  (if security.basicAuth then
    lines
      ["    if (this.options.username !== undefined) \x7b",
        "      headers[\"Authorization\"] = `Basic $\x7bthis.basicCredentials()\x7d`;",
        "    \x7d"]
    else [])

def ArgumentType.chars (argument : ArgumentType) : List Char :=
  "parameters: ".toList ++ argument.type ++ (if argument.required then [] else " = \x7b\x7d".toList)

namespace ClientMethod

def signature (method : ClientMethod) : List Char :=
  "  async ".toList ++ method.name.toList ++
    '(' :: (method.argument.map ArgumentType.chars).getD [] ++
    "): Promise<".toList ++ method.result.toList ++ "> \x7b".toList

def send (method : ClientMethod) : List Char :=
  "    return this.request<".toList ++ method.result.toList ++ ">(".toList ++
    quotedText method.verb.text ++ ", `".toList ++ method.path.flatMap LiteralPart.chars ++
    "`, query, headers, body);".toList

def lines (method : ClientMethod) : Lines :=
  (DocComment.block (method.comment.map some)).lines [' ', ' '] ++
    [method.signature] ++
    TypeScript.lines
      ["    const query: Record<string, unknown> = \x7b\x7d;",
        "    const headers: Record<string, string> = \x7b\x7d;"] ++
    method.fixedHeaders.flatMap Header.lines ++
    method.query.flatMap QueryEntry.lines ++
    method.headers.flatMap headerLines ++
    credentialLines method.security ++
    method.body.lines ++
    [method.send, "  \x7d".toList]

end ClientMethod

def constructorLines (client : ClientClass) : Lines :=
  ["  constructor(options: ".toList ++ client.optionsName.toList ++ " = \x7b\x7d) \x7b".toList,
    "    this.domain = options.domain ?? ".toList ++ quotedText client.domain ++ [';'],
    "    this.fetchImpl = options.fetch ?? fetch;".toList] ++
    (if client.security.secure then ["    this.options = options;".toList] else []) ++
    ["  \x7d".toList]

def basicCredentialsLines (client : ClientClass) : Lines :=
  lines
    ["  private basicCredentials(): string \x7b",
      "    const pair = `$\x7bthis.options.username ?? \"\"\x7d:$\x7bthis.options.password ?? \"\"\x7d`;",
      if client.isNode then "    return Buffer.from(pair).toString(\"base64\");"
      else "    return btoa(pair);",
      "  \x7d"]

def requestLines : Lines :=
  lines
    ["  private async request<T>(",
      "    method: string,",
      "    path: string,",
      "    query: Record<string, unknown>,",
      "    headers: Record<string, string>,",
      "    body?: BodyInit,",
      "  ): Promise<T> \x7b",
      "    const search = new URLSearchParams();",
      "    for (const [key, value] of Object.entries(query)) \x7b",
      "      if (value === undefined || value === null) continue;",
      "      if (Array.isArray(value)) \x7b",
      "        for (const item of value) search.append(key, String(item));",
      "      \x7d else \x7b",
      "        search.append(key, String(value));",
      "      \x7d",
      "    \x7d",
      "    const qs = search.toString();",
      "    const url = this.domain + path + (qs ? `?$\x7bqs\x7d` : \"\");",
      "    const response = await this.fetchImpl(url, \x7b method, headers, body \x7d);",
      "    if (!response.ok) \x7b",
      "      throw new Error(`$\x7bmethod\x7d $\x7bpath\x7d failed with status $\x7bresponse.status\x7d`);",
      "    \x7d",
      "    const text = await response.text();",
      "    return (text ? JSON.parse(text) : undefined) as T;",
      "  \x7d"]

/-- The lines of a member. All but fields are set apart by an empty line. -/
def ClientClass.memberLines (client : ClientClass) : Member → Lines
  | .field name type =>
    ["  private readonly ".toList ++ name.toList ++ ": ".toList ++ type.toList ++ [';']]
  | .constructor => [] :: constructorLines client
  | .basicCredentials => [] :: basicCredentialsLines client
  | .request => [] :: requestLines
  | .method method => [] :: method.lines

def ClientClass.lines (client : ClientClass) : Lines :=
  [[], "export class ".toList ++ client.name.toList ++ " \x7b".toList] ++
    client.members.flatMap client.memberLines ++ [['\x7d']]

namespace ClientModule

def lines (module : ClientModule) : Lines :=
  let (opening, closing) :=
    match module.moduleName with
    | some name =>
      ([[], "export namespace ".toList ++ name.toList ++ " \x7b".toList], [['\x7d']])
    | none => ([], [])
  ["/* eslint-disable */".toList] ++ module.comment.lines [] ++
    module.imports.map String.toList ++ opening ++ [[]] ++
    module.declarations.flatMap Declaration.lines ++ module.client.lines ++ closing

def text (module : ClientModule) : String := String.ofList module.lines.text

end ClientModule

end ClientGen.TypeScript
