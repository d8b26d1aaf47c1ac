import PipeQuery.Manual.Topics

/-! The short tutorial. -/

namespace PipeQuery.Manual

/-- Five steps from a call to a canonical query. -/
def tutorial : String :=
  lines [
    "WELCOME TO MCPQL",
    "",
    "MCPQL calls a tool and shapes its result as a table. Here the tool result is",
    "supplied with --input so you can try the pipeline locally.",
    "",
    "STEP 1: CHECK A CALL",
    "--------------------",
    "Every query names a provider and a tool.",
    "",
    "  mcpql check 'github | list_issues(repo=\"org/repo\")' --syntax-only",
    "  => Syntax is valid",
    "",
    "STEP 2: SEE THE TABLE",
    "---------------------",
    "JSON arrays of objects become rows.",
    "",
    "  mcpql check 'github | list_issues' -o table \\",
    "    --input '[\x7b\"title\": \"Crash\", \"state\": \"open\"\x7d, " ++
      "\x7b\"title\": \"Typo\", \"state\": \"closed\"\x7d]'",
    "  => title | state",
    "     ------+-------",
    "     Crash | open",
    "     Typo  | closed",
    "     (2 rows)",
    "",
    "STEP 3: FILTER",
    "--------------",
    "  mcpql check 'github | list_issues | where state == \"open\"' --input '...'",
    "",
    "STEP 4: SHAPE",
    "-------------",
    "  | project title        keep columns",
    "  | sort by title desc   order rows",
    "  | take 5               first rows",
    "  | count                how many rows",
    "",
    "STEP 5: FORMAT",
    "--------------",
    "  mcpql fmt 'github.list_issues(repo=\"org/repo\")|take 5'",
    "  => github | list_issues(repo='org/repo')",
    "     | take 5",
    "",
    "NEXT STEPS",
    "----------",
    "  mcpql docs              List all documentation categories",
    "  mcpql doc operators     The six pipeline operators",
    "  mcpql doc conditions    How where compares values"]

end PipeQuery.Manual
