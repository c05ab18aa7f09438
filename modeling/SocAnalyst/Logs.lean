import Mathlib.Algebra.Order.Ring.Rat
import SocAnalyst.Times
import SocAnalyst.Values

/-!
# Contracts of the log analysis

The records of `models/logs.py`. Scores are exact rationals where the program has
floats.
-/
namespace SocAnalyst.Logs
open SocAnalyst.Builtins SocAnalyst.Times SocAnalyst.Values

/-- Wire formats the parsers understand. -/
inductive LogFormat where
  | JSON
  | SYSLOG_RFC3164
  | SYSLOG_RFC5424
  | WINDOWS_EVENT
  | CEF
  | KEY_VALUE
  | UNKNOWN
  deriving DecidableEq, Repr

/-- Where log records come from. -/
inductive LogSourceKind where
  | FILE
  | SYSLOG
  | WINDOWS_EVENT_LOG
  | SIEM
  deriving DecidableEq, Repr

/-- Normalized security-event categories. -/
inductive EventType where
  | AUTH_SUCCESS
  | AUTH_FAILURE
  | PRIVILEGE_CHANGE
  | PROCESS_START
  | NETWORK_CONNECTION
  | FILE_ACCESS
  | SERVICE_CONTROL
  | ACCOUNT_CHANGE
  | CONFIGURATION_CHANGE
  | OTHER
  deriving DecidableEq, Repr

/-- Entities extracted from log content, used to correlate across sources. -/
inductive EntityType where
  | HOST
  | USER
  | IP_ADDRESS
  | DOMAIN
  | URL
  | FILE_HASH
  | FILE_PATH
  | PROCESS
  deriving DecidableEq, Repr

/-- An identifier extracted from a record. -/
structure Entity where
  type : EntityType
  value : Text
  deriving DecidableEq

/-- A parsed, provenance-tagged security event. -/
structure NormalizedEvent where
  eventId : Text
  recordId : Text
  sourceId : Text
  sourceKind : LogSourceKind
  logFormat : LogFormat
  eventTime : DateTime
  eventType : EventType := .OTHER
  host : Option Text := none
  actor : Option Text := none
  action : Option Text := none
  outcome : Option Text := none
  message : Text := []
  entities : List Entity := []
  fields : List (Text × Value) := []
  rawRef : Option Text := none
  notability : ℚ := 0
  confidence : ℚ := 1

end SocAnalyst.Logs
