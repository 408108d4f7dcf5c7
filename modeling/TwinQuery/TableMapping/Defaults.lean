/-
# The default table mapping and discovery queries

Common places of Sentinel and Defender tables in Splunk; an environment will
usually adjust them. Discovery queries are SPL searches that help to find
where the events of a table live.

Key definitions: `TableMapping.defaults`, `searchKeywords`,
`discoveryQueries`.
-/
import TwinQuery.TableMapping.Basic

namespace TwinQuery

/-- The tables with a default place: table, index, source type and note. -/
def defaultPlaces : List (Text × Text × Text × Text) :=
  [("SecurityEvent", "windows", "WinEventLog:Security", "Common for Windows Security events"),
   ("DeviceProcessEvents", "defender", "MDE:DeviceProcessEvents",
    "Microsoft Defender for Endpoint"),
   ("DeviceNetworkEvents", "defender", "MDE:DeviceNetworkEvents",
    "Microsoft Defender for Endpoint"),
   ("DeviceFileEvents", "defender", "MDE:DeviceFileEvents", "Microsoft Defender for Endpoint"),
   ("DeviceEvents", "defender", "MDE:DeviceEvents", "Microsoft Defender for Endpoint"),
   ("DeviceRegistryEvents", "defender", "MDE:DeviceRegistryEvents",
    "Microsoft Defender for Endpoint"),
   ("DeviceLogonEvents", "defender", "MDE:DeviceLogonEvents", "Microsoft Defender for Endpoint"),
   ("DeviceImageLoadEvents", "defender", "MDE:DeviceImageLoadEvents",
    "Microsoft Defender for Endpoint"),
   ("SigninLogs", "azuread", "azure:aad:signin", "Azure AD Sign-in logs"),
   ("AuditLogs", "azuread", "azure:aad:audit", "Azure AD Audit logs"),
   ("AADSignInEventsBeta", "azuread", "azure:aad:signin", "Azure AD Sign-in logs (beta)"),
   ("EmailEvents", "o365", "ms:o365:reporting:messagetrace", "Office 365 Email events"),
   ("EmailUrlInfo", "o365", "ms:o365:reporting:messagetrace", "Office 365 Email URL info"),
   ("EmailAttachmentInfo", "o365", "ms:o365:reporting:messagetrace",
    "Office 365 Email attachments"),
   ("CloudAppEvents", "o365", "ms:o365:management", "Office 365 Cloud App events"),
   ("OfficeActivity", "o365", "ms:o365:management", "Office 365 Activity"),
   ("IdentityInfo", "security", "MDI:IdentityInfo", "Microsoft Defender for Identity"),
   ("IdentityLogonEvents", "security", "MDI:IdentityLogonEvents",
    "Microsoft Defender for Identity"),
   ("IdentityQueryEvents", "security", "MDI:IdentityQueryEvents",
    "Microsoft Defender for Identity"),
   ("ThreatIntelligenceIndicator", "threatintel", "ti:indicators",
    "Threat Intelligence indicators"),
   ("SecurityAlert", "security", "security:alerts", "Security alerts from various sources"),
   ("SecurityIncident", "security", "security:incidents", "Security incidents"),
   ("AlertEvidence", "security", "security:alert:evidence", "Security alert evidence"),
   ("Resources", "azure", "azure:resource:graph", "Azure Resource Graph"),
   ("ResourceChanges", "azure", "azure:resource:changes", "Azure Resource Changes")]

/-- The default entries, the fallback last. -/
def defaultEntries : List (Scalar × Entry) :=
  defaultPlaces.map (fun (table, index, sourcetype, note) =>
    (.text table, ⟨index, some sourcetype, note⟩)) ++
  [(.text defaultName, ⟨"main", none, "Default fallback - adjust to your environment"⟩)]

/-- The default mapping, in its first version. -/
def TableMapping.defaults : TableMapping := ⟨defaultEntries, 1, by decide +kernel⟩

/-- Keywords that identify the events of a table in raw data. -/
def tableKeywords : List (Text × List Text) :=
  [("SecurityEvent", ["EventCode=4624", "EventID", "Windows Security", "WinEventLog"]),
   ("DeviceProcessEvents", ["DeviceName", "ProcessCommandLine", "InitiatingProcessFileName",
    "DeviceId"]),
   ("DeviceNetworkEvents", ["DeviceName", "RemoteIP", "RemoteUrl", "InitiatingProcessFileName"]),
   ("DeviceFileEvents", ["DeviceName", "FileName", "FolderPath", "SHA256"]),
   ("SigninLogs", ["UserPrincipalName", "SignInLogs", "Azure AD", "ConditionalAccessStatus"]),
   ("AuditLogs", ["AuditLogs", "OperationName", "InitiatedBy", "Azure AD"]),
   ("EmailEvents", ["SenderFromAddress", "RecipientEmailAddress", "Subject", "NetworkMessageId"]),
   ("OfficeActivity", ["Office 365", "Operation", "UserId", "Workload"]),
   ("IdentityInfo", ["OnPremisesUserPrincipalName", "AccountDisplayName", "IdentityInfo"])]

/-- The keywords to search for the events of a table: its own name when none
are known. -/
def searchKeywords (table : Text) : List Text := (tableKeywords.lookup table).getD [table]

/-- The queries that look for the events of one table, by name. -/
def tableQueries (table : Text) : List (Text × Text) :=
  let keywords := Text.joinWith " OR " (searchKeywords table)
  [("find_" ++ table,
    "index=* (" ++ keywords ++
      ")\n| stats count by index, sourcetype\n| sort -count\n| head 10"),
   ("sample_" ++ table,
    "index=* (" ++ keywords ++ ")\n| head 5\n| table _time, index, sourcetype, _raw")]

/-- The queries that survey all data, by name. -/
def surveyQueries : List (Text × Text) :=
  [("all_azure_data",
    "index=* (azure OR entra OR microsoft OR defender OR office365)\n" ++
      "| stats count by index, sourcetype\n| sort -count"),
   ("all_indexes", "| eventcount summarize=false index=*\n| dedup index\n| table index"),
   ("all_sourcetypes", "| metadata type=sourcetypes\n| table sourcetype, totalCount, lastTime"),
   ("eventhub_data",
    "index=* source=*eventhub* OR sourcetype=*eventhub* OR sourcetype=*azure*\n" ++
      "| stats count by index, sourcetype, source\n| sort -count")]

/-- The discovery queries for the table that a document names; what counts as
false names none. -/
def discoveryQueries (table : Doc) : Except Fault (List (Text × Text)) :=
  if table.isTruthy then
    match table with
    | .atom (.text name) => .ok (tableQueries name)
    | .atom other => .error (.keywordNotText other.kind)
    | other => .error (.notAKey other.kind)
  else .ok surveyQueries

end TwinQuery
