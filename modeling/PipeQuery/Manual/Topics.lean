import PipeQuery.Unicode.Lowercase

/-! The manual: an overview and five topics, each of which has several names. -/

namespace PipeQuery

/-- Lines of text, each with its line feed. -/
def lines (ls : List String) : String := String.join (ls.map (· ++ "\n"))

namespace Manual

/-- The topics of the manual. -/
inductive Topic
  | calls | parameters | operators | conditions | tables
deriving DecidableEq, Repr

/-- The names of the topics. -/
def topicNames : List (String × Topic) :=
  [("syntax", .calls), ("call", .calls),
   ("parameters", .parameters), ("params", .parameters),
   ("operators", .operators), ("ops", .operators), ("pipeline", .operators),
   ("conditions", .conditions), ("where", .conditions), ("comparisons", .conditions),
   ("tables", .tables), ("table", .tables), ("json", .tables)]

/-- The topic of a name. Case does not matter, and a hyphen is as good as a low line. -/
def Topic.ofName? (name : String) : Option Topic :=
  topicNames.lookup <|
    String.ofList ((Unicode.lowercase name).toList.map fun c => if c = '-' then '_' else c)

/-- The list of topics with a short reference. -/
def overview : String :=
  lines [
    "MCPQL DOCUMENTATION",
    "",
    "MCPQL calls a tool on a provider and post-processes the result as a table.",
    "A query names the provider and tool, passes typed parameters, then pipes the",
    "result through operators.",
    "",
    "DOCUMENTATION CATEGORIES",
    "",
    "  syntax            Provider/tool call forms and tokens",
    "  parameters        Parameter names, values and reserved words",
    "  operators         where, project, take, sort, count, extend",
    "  conditions        Comparison operators and how values are compared",
    "  tables            How JSON tool results become tables",
    "",
    "QUICK REFERENCE",
    "",
    "  provider | tool(k='v')         Call a tool",
    "  provider.tool(k='v')           Same call, dot form",
    "  | where col == 'x'             Filter rows",
    "  | project a, b                 Keep columns",
    "  | take 10                      First rows",
    "  | sort by col desc             Stable sort",
    "  | count                        Row count",
    "  | extend new = col             Add a column",
    "",
    "Run 'mcpql doc <category>' for detailed documentation.",
    "Run 'mcpql onboard' for a short tutorial."]

/-- Forms of a call and tokens. -/
def callsText : String :=
  lines [
    "SYNTAX",
    "",
    "CALL FORMS",
    "  provider | tool",
    "  provider | tool(name=value, ...)",
    "  provider.tool(name=value, ...)",
    "",
    "  The separator after the provider may be '|' or '.'; both mean the same.",
    "  Operators follow the call, each introduced by '|':",
    "",
    "    github | list_issues(repo='org/repo') | where state == 'open' | take 10",
    "",
    "TOKENS",
    "  Identifiers      letters, digits, '_' and '-'; may start with '_' or '-'",
    "  Strings          'single' or \"double\" quoted; '\\' keeps the next character",
    "  Numbers          42, -7, 3.5",
    "  Booleans         true, false",
    "  Whitespace       spaces, tabs and newlines are ignored",
    "",
    "  Reserved words are matched case-insensitively:",
    "    where project take sort by count extend asc desc and or not",
    "",
    "ERRORS",
    "  Errors report what was expected, what was found, and the 1-based line and",
    "  column of the offending token (or of the last token at end of input):",
    "",
    "    $ mcpql validate \"github |\"",
    "    Expected tool name but found end of input at line 1, column 8"]

/-- Names and values of parameters. -/
def parametersText : String :=
  lines [
    "PARAMETERS",
    "",
    "  tool(name=value, name=value)",
    "",
    "VALUES",
    "  'text' / \"text\"   String",
    "  42, -1.5          Number",
    "  true, false       Boolean",
    "  bare_word         String (the word itself)",
    "",
    "  Reserved words are allowed as names and as bare values inside a call:",
    "",
    "    db | query(sort=desc, count=5, by=owner)",
    "",
    "DUPLICATES",
    "  A repeated name keeps its first position and its last value:",
    "",
    "    tool(a=1, b=2, a=3)   =>   a=3, b=2"]

/-- What each operator does. -/
def operatorsText : String :=
  lines [
    "OPERATORS",
    "",
    "Operators run left to right; each sees the table produced by the previous one.",
    "",
    "WHERE",
    "  | where col == 'x'",
    "  | where col > 5 and other contains 'abc'",
    "    Keep rows where every condition holds. 'or' is accepted but conditions are",
    "    always combined with 'and'. A condition on an unknown column is false.",
    "",
    "PROJECT",
    "  | project title, author",
    "    Keep the named columns in the given order. Unknown names are skipped.",
    "",
    "TAKE",
    "  | take 10",
    "    Keep the first N rows.",
    "",
    "SORT",
    "  | sort by created",
    "  | sort priority desc",
    "    Stable sort on one column. Cells that are numbers sort numerically and",
    "    before text. Sorting on an unknown column leaves the table unchanged.",
    "",
    "COUNT",
    "  | count",
    "    Replace the table with one 'Count' column holding the row count.",
    "",
    "EXTEND",
    "  | extend owner = author",
    "  | extend source = github",
    "    Append a column. If the right-hand side names an existing column, each row",
    "    copies that column's value; otherwise every row gets the text as written."]

/-- How values are compared. -/
def conditionsText : String :=
  lines [
    "CONDITIONS",
    "",
    "  column operator value",
    "",
    "COMPARISONS",
    "  ==  !=  >  >=  <  <=",
    "    Numeric when both the cell and the value are numbers, otherwise",
    "    case-insensitive text comparison.",
    "",
    "TEXT OPERATORS (case-insensitive)",
    "  contains      Substring",
    "  has           Substring (same as contains)",
    "  startswith    Prefix",
    "  endswith      Suffix",
    "  matches       Regular expression",
    "",
    "EXAMPLES",
    "  | where comments >= 10",
    "  | where title contains 'bug'",
    "  | where version matches '^v2\\.'",
    "  | where state != closed"]

/-- How JSON becomes a table. -/
def tablesText : String :=
  lines [
    "TABLES",
    "",
    "Tool results are JSON; they are turned into tables before operators run.",
    "Every cell is text.",
    "",
    "  [ \x7b...\x7d, \x7b...\x7d ]         One row per object; columns are all keys in",
    "                           first-seen order, missing keys are empty",
    "  [ 1, 2, 3 ]              One 'value' column",
    "  \x7b \"items\": [...], ... \x7d  The first property holding a non-empty list of",
    "                           objects is used as the rows",
    "  \x7b \"a\": 1, \"b\": 2 \x7d       A single row",
    "  42 / \"text\"              A single 'value' cell",
    "",
    "  Nested objects and arrays inside a cell keep their JSON text."]

/-- The text of a topic. -/
def Topic.text : Topic → String
  | .calls => callsText
  | .parameters => parametersText
  | .operators => operatorsText
  | .conditions => conditionsText
  | .tables => tablesText

end Manual

end PipeQuery
