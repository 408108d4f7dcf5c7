/-
# The command line

A run of the command line takes arguments and a workspace and gives what is
printed, how the run ends, and the workspace after it. Settings are read
before the command is looked at. Mistakes in what the user asked for are
printed and end the run with status 1; other faults end it where they occur,
after what was already printed.

Key definitions: `Command`, `Run`, `runCommand`, `runCommandLine`.
-/
import TwinQuery.CommandLine.Options
import TwinQuery.CommandLine.Usage
import TwinQuery.Refresh
import TwinQuery.Session

namespace TwinQuery

/-- How a run ends. -/
inductive Ending where
  | exit (status : Nat)
  | fault (f : Fault)

/-- Where the service listens. -/
structure Listener where
  host : Doc
  apiPort : Doc

/-- A run: what is printed, how it ends, and the service it starts, if any. -/
structure Run where
  printed : Text
  ending : Ending
  service : Option Listener := none

namespace Run

/-- A run that prints lines and ends well. -/
def done (lines : List Text) : Run := ⟨lines.flatMap fun line => line ++ "\n", .exit 0, none⟩

/-- A run that prints an error and ends with status 1. -/
def refused (message : Text) : Run := ⟨"Error: " ++ message ++ "\n", .exit 1, none⟩

/-- A run that ends with a fault after some lines. -/
def broken (lines : List Text) (f : Fault) : Run :=
  ⟨lines.flatMap fun line => line ++ "\n", .fault f, none⟩

/-- A run that ends with a fault; one that lies in what was asked for is
printed. -/
def failed (f : Fault) : Run := if f.isBadInput then refused f.message else broken [] f

end Run

/-- The commands. -/
inductive Command where
  | help
  | convert
  | splToKql
  | kqlToSpl
  | explain
  | mappings
  | discover
  | refresh
  | serve
deriving DecidableEq

/-- The command of a name in lower case. -/
def Command.ofName? (name : Text) : Option Command :=
  let names : List (Text × Command) :=
    [("-h", .help), ("--help", .help), ("help", .help), ("translate", .convert),
     ("spl2kql", .splToKql), ("kql2spl", .kqlToSpl), ("explain", .explain),
     ("mappings", .mappings), ("discover", .discover), ("refresh", .refresh), ("serve", .serve)]
  names.lookup name

/-! ### Conversions and explanations -/

/-- The name of the program as it is called. -/
def programName : Text := "kql-spl-translator"

/-- The complaint that there is no query to convert. -/
def queryRequired : Text :=
  "query required\nUsage: " ++ programName ++ " translate --from spl --to kql \"<query>\""

/-- The complaint that there is nothing to explain or no language. -/
def languageRequired : Text :=
  "query and --language required\nUsage: " ++ programName ++
    " explain --language spl \"<query>\""

/-- A conversion as it is printed. -/
def conversionLine (json : Bool) (c : Conversion) : Text :=
  if json then Json.write Json.indented c.toDoc else c.report

/-- A conversion of a query between two languages. -/
def runConversion (w : Workspace) (settings : Settings) (json : Bool)
    (query source target : Text) : Run :=
  match Session.ofSettings w settings with
  | .error f => .broken [] f
  | .ok s =>
    match s.convert w (.text query) (.text source) (.text target) with
    | .ok (c, _) => .done [conversionLine json c]
    | .error f => .failed f

/-- The conversion command, where the languages are given as options. -/
def runConvert (w : Workspace) (settings : Settings) (o : Options) : Run :=
  match o.words, o.source, o.target with
  | [], _, _ => .refused queryRequired
  | query :: _, some (a :: source), some (b :: target) =>
    runConversion w settings o.json query (a :: source) (b :: target)
  | _ :: _, _, _ => .refused "--from and --to are required"

/-- The conversion from one given language to the other. -/
def runConvertFrom (w : Workspace) (settings : Settings) (o : Options) (source target : Language) :
    Run :=
  match o.words with
  | [] => .refused queryRequired
  | query :: _ => runConversion w settings o.json query source.name target.name

/-- The explanation of a query. -/
def runExplain (w : Workspace) (settings : Settings) (o : Options) : Run :=
  match o.words, o.language with
  | query :: _, some (c :: language) =>
    match Session.ofSettings w settings with
    | .error f => .broken [] f
    | .ok s =>
      match s.explain w (.text query) (.text (c :: language)) with
      | .ok (t, _) => .done [t]
      | .error f => .failed f
  | _, _ => .refused languageRequired

/-! ### Mappings and discovery -/

/-- The width of the column for the names of tables. -/
def columnWidth : Nat := 30

/-- The name of a table in its column. A truth value is laid out as a number,
null and bytes cannot be laid out, and a date or a time stamp takes the layout
for a format of its own. -/
def tableColumn : Scalar → Except Fault Text
  | .null => .error (.noColumn .null)
  | .bytes _ => .error (.noColumn .bytes)
  | .bool b => .ok (Text.padRight columnWidth (if b then ['1'] else ['0']))
  | .date _ => .ok ('<' :: Text.ofNat columnWidth)
  | .stamp _ => .ok ('<' :: Text.ofNat columnWidth)
  | name => .ok (Text.padRight columnWidth name.display)

/-- The lines for the entries, after the lines before them. -/
def listEntries (lines : List Text) : List (Scalar × Entry) → Run
  | [] => .done (lines ++ [Conversion.rule])
  | (name, entry) :: rest =>
    match tableColumn name with
    | .ok column => listEntries (lines ++ [column ++ " " ++ entry.search]) rest
    | .error f => .broken lines f

/-- Whether a scalar can be the key of a JSON object. -/
def Scalar.isJsonKey : Scalar → Bool
  | .date _ => false
  | .stamp _ => false
  | .bytes _ => false
  | _ => true

/-- The listing of a table mapping. -/
def listMapping (json : Bool) (m : TableMapping) : Run :=
  if json then
    match m.entries.find? fun entry => !entry.1.isJsonKey with
    | some (name, _) => .broken [] (.keyNotJson name.kind)
    | none => .done [Json.write Json.indented m.toDoc]
  else listEntries ["\nKQL Table -> Splunk Index/Sourcetype", Conversion.rule] m.entries

/-- The listing of discovery queries. -/
def listQueries (json : Bool) (queries : List (Text × Text)) : Run :=
  if json then
    .done [Json.write Json.indented
      (Doc.record (queries.map fun (name, query) => (name, .text query)))]
  else
    .done (queries.flatMap (fun (name, query) => ["\n--- " ++ name ++ " ---", query]) ++ [[]])

/-- The discovery queries for the first word, or the survey. -/
def runDiscover (w : Workspace) (settings : Settings) (o : Options) : Run :=
  match Session.ofSettings w settings with
  | .error f => .broken [] f
  | .ok _ =>
    match discoveryQueries ((o.words.head?.map Doc.text).getD Doc.null) with
    | .ok queries => listQueries o.json queries
    | .error f => .broken [] f

/-! ### Refreshes and the service -/

/-- The answer of the tracker, and the workspace after it. -/
def runTracker (w : Workspace) (r : Tracker) (o : Options) : Except Fault (Doc × Workspace) :=
  if o.words.head? == some (Text.ofString "status") then return (← r.status w, w)
  else r.refreshAll w

/-- A refresh, or the status of refreshes. -/
def runRefresh (w : Workspace) (settings : Settings) (o : Options) : Run × Workspace :=
  match (Tracker.make settings.statePath settings.refreshDays).bind fun r => runTracker w r o with
  | .ok (answer, w) => (.done [Json.write Json.indented answer], w)
  | .error f => (.broken [] f, w)

/-- The lines with which the service starts. -/
def serviceLines (host apiPort : Doc) : List Text :=
  let address : Text := "http://" ++ host.display ++ ":" ++ apiPort.display
  ["\nStarting KQL-SPL Translator API", "   URL: " ++ address,
   "   Docs: " ++ address ++ "/api/docs", []]

/-- The start of the service, on this machine only if asked for. -/
def runServe (settings : Settings) (o : Options) : Run :=
  let host := if o.localOnly then .text "127.0.0.1" else settings.apiHost
  { Run.done (serviceLines host settings.apiPort) with
    service := some ⟨host, settings.apiPort⟩ }

/-! ### Commands -/

/-- A run of a command. -/
def runCommand (w : Workspace) (settings : Settings) (o : Options) : Command → Run × Workspace
  | .help => (.done [usage], w)
  | .convert => (runConvert w settings o, w)
  | .splToKql => (runConvertFrom w settings o .spl .kql, w)
  | .kqlToSpl => (runConvertFrom w settings o .kql .spl, w)
  | .explain => (runExplain w settings o, w)
  | .mappings =>
    match Session.ofSettings w settings with
    | .error f => (.broken [] f, w)
    | .ok s => (listMapping o.json s.mapping, w)
  | .discover => (runDiscover w settings o, w)
  | .refresh => runRefresh w settings o
  | .serve => (runServe settings o, w)

/-- A run of the command line with the settings in the file of the given
path. -/
def runCommandLine (w : Workspace) (settingsPath : Option Path) :
    (arguments : List Text) → Run × Workspace
  | [] => (.done [usage], w)
  | name :: arguments =>
    match Settings.load w settingsPath with
    | .error f => (.broken [] f, w)
    | .ok settings =>
      match Command.ofName? (Text.lower name) with
      | some command => runCommand w settings (.ofArguments arguments) command
      | none => (⟨"Unknown command: " ++ Text.lower name ++ "\n", .exit 1, none⟩, w)

end TwinQuery
