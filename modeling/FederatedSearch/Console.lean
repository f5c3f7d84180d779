import FederatedSearch.Federation.Search

/-!
# Console

A session in which queries and commands are given line by line. Commands start with a point; any
other line is a query, and so is a line with an unknown command. A session ends with its last
line or when it is told to.
-/

namespace FederatedSearch

namespace Console

/-- What a line of a session asks for. -/
inductive Command
  | quit
  | help
  | sources
  | fields
  | query (text : String)
  deriving DecidableEq, Repr

/-- What a line asks for; nothing when it is blank. White space around a line does not matter. -/
def Command.ofLine? (line : String) : Option Command :=
  let text := String.ofList (Text.trim line.toList)
  match text with
  | "" => none
  | ".quit" => some .quit
  | ".exit" => some .quit
  | ".help" => some .help
  | ".sources" => some .sources
  | ".fields" => some .fields
  | _ => some (.query text)

/-- The lines of a help text. -/
def helpLines : List String :=
  ["输入查询，例如: FROM global WHERE ip='8.8.8.8' LIMIT 10",
    "  .sources  列出数据源",
    "  .fields   列出可查询字段",
    "  .help     显示帮助",
    "  .quit     退出",
    "查询过程中按 Ctrl-C 取消"]

/-- The lines with which a session starts. -/
def greeting (f : Federation) : List String :=
  ["--- Query Federator ---", "✅ 已加载 " ++ toString f.registry.length ++ " 个数据源"] ++ helpLines

/-- The line for one source. -/
def sourceLine (b : Backend) : String :=
  "  " ++ b.name ++ (if b.source.inGlobal then " (global)" else "")

/-- The line that sums up a search. -/
def statusLine (r : SearchResult) : String :=
  match r.error with
  | some message => "❌ " ++ message
  | none =>
    if r.truncated then "⚠️ 结果过多，已返回统计信息"
    else "✅ " ++ toString r.relations.length ++ " 条关系"

/-- The lines that a command brings about, and the federation after it; none at the end of the
session. -/
def respond (now : Int) (f : Federation) : Command → Option (List String × Federation)
  | .quit => none
  | .help => some (helpLines, f)
  | .sources => some (f.registry.map fun (_, b) => sourceLine b, f)
  | .fields => some ([", ".intercalate (Registry.fieldList f.registry)], f)
  | .query text =>
    let (result, f) := f.query now text none
    some ([result.shown.pretty, statusLine result], f)

/-- The lines that a line of a session brings about. -/
def step (now : Int) (f : Federation) (line : String) : Option (List String × Federation) :=
  match Command.ofLine? line with
  | some command => respond now f command
  | none => some ([], f)

/-- The lines that the lines of a session bring about, all at one time. -/
def session (now : Int) (f : Federation) : List String → List String
  | [] => []
  | line :: rest =>
    match step now f line with
    | some (output, f) => output ++ session now f rest
    | none => []

/-- The name of the configuration unless said otherwise. -/
def defaultPath : String := "federator.json"

/-- The path of the configuration: the first argument, or else what the environment says. -/
def configurationPath (arguments : List String) (environment : Option String) : String :=
  (arguments.head?.or environment).getD defaultPath

end Console

end FederatedSearch
