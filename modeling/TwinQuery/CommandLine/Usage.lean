/-
# Help for the command line

Key definitions: `usage`.
-/
import TwinQuery.Text.Basic

namespace TwinQuery

/-- The lines of the help. -/
def usageLines : List String :=
  ["",
   "KQL-SPL Translator",
   "==================",
   "",
   "Usage:",
   "    kql-spl-translator translate --from <lang> --to <lang> \"<query>\"",
   "    kql-spl-translator spl2kql \"<query>\"          Translate SPL to KQL",
   "    kql-spl-translator kql2spl \"<query>\"          Translate KQL to SPL",
   "    kql-spl-translator explain --language <lang> \"<query>\"",
   "    kql-spl-translator mappings                   Show table mappings",
   "    kql-spl-translator discover [table]           Splunk data discovery queries",
   "    kql-spl-translator refresh [status]           Reference refresh tracking",
   "    kql-spl-translator serve [--local]            Run the HTTP API",
   "",
   "Options:",
   "    --json            Print results as JSON",
   "",
   "Examples:",
   "    kql-spl-translator spl2kql \"index=main | stats count by host\"",
   "    kql-spl-translator kql2spl \"SecurityEvent | where EventID == 4625 | take 10\"",
   "    kql-spl-translator explain --language kql \"SigninLogs | summarize count() by UserPrincipalName\"",
   "    kql-spl-translator discover SecurityEvent",
   ""]

/-- The help. -/
def usage : Text := Text.joinWith "\n" (usageLines.map Text.ofString)

end TwinQuery
