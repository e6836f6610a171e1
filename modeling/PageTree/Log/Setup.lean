import PageTree.Log.Context
import PageTree.Settings
import PageTree.Text.Quoted

/-!
# Logging setup

A setup is a threshold and a choice between lines for machines and lines for
people.  Every setup replaces the one before.  Messages below the threshold are
dropped; of the others, a line for machines shows the message, its severity, the
logger, the context and the fields, where fields win over the context.
-/

namespace PageTree

/-- The number by which severities are compared. -/
def Severity.number : Severity → Nat
  | debug => 10
  | info => 20
  | warning => 30
  | error => 40
  | critical => 50

/-- Names of thresholds, in upper case. -/
def thresholds : Table Nat :=
  [("NOTSET", 0), ("DEBUG", 10), ("INFO", 20), ("WARN", 30), ("WARNING", 30),
    ("ERROR", 40), ("CRITICAL", 50), ("FATAL", 50)]

/-- Upper case as far as the names of thresholds need it: the ASCII letters, the
dotless i and the long s. -/
def upperLetter (char : Char) : Char :=
  if char = 'ı' then 'I' else if char = 'ſ' then 'S' else char.toUpper

/-- A name that stands for a part of the log's form cannot name a threshold. -/
inductive ThresholdError where
  /-- The name of the pattern of plain lines. -/
  | linePattern
  /-- The name of the styles of patterns. -/
  | patternStyles
  deriving DecidableEq, Repr

/-- The pattern of plain lines: a severity, a logger and a message. -/
def linePattern : String := "%(levelname)s:%(name)s:%(message)s"

/-- The wording of an error. -/
def ThresholdError.message : ThresholdError → String
  | linePattern => "Unknown level: " ++ Text.quoted PageTree.linePattern
  | patternStyles => "The styles of patterns are not a level"

/-- The threshold of a name in any case; unknown names mean the one of `info`. -/
def thresholdOf (name : String) : Except ThresholdError Nat :=
  let upper := name.map upperLetter
  if upper = "BASIC_FORMAT" then .error .linePattern
  else if upper = "_STYLES" then .error .patternStyles
  else .ok ((thresholds.get? upper).getD Severity.info.number)

/-- What is logged, and in which form. -/
structure LogSetup where
  threshold : Nat
  /-- Whether lines are for machines. -/
  structured : Bool
  deriving DecidableEq, Repr

/-- A message of a program that uses the library. -/
structure LogMessage where
  severity : Severity
  event : String
  fields : Record := []

/-- A line for machines. -/
structure LogLine where
  severity : Severity
  logger : String
  fields : Record

namespace LogSetup

/-- The setup from a name for the threshold and the form of lines. -/
def make? (level : String) (structured : Bool) : Except ThresholdError LogSetup :=
  (thresholdOf level).map fun threshold => ⟨threshold, structured⟩

/-- The setup that settings ask for. -/
def ofSettings? (settings : Settings) : Except ThresholdError LogSetup :=
  make? settings.logLevel settings.jsonLogs

/-- The setup of a program that asks for nothing. -/
def standard : LogSetup := ⟨Severity.info.number, false⟩

/-- Whether a message is logged. -/
def accepts (setup : LogSetup) (message : LogMessage) : Bool :=
  setup.threshold ≤ message.severity.number

/-- Names of fields that steer how a line is made and are not shown: its time,
and the requests for an exception and for the calls under way. -/
def unshown : List String := ["timestamp", "exc_info", "stack_info"]

/-- The line for machines that shows a message in a context. -/
def line (logger : String) (context : LogContext) (message : LogMessage) : LogLine :=
  { severity := message.severity
    logger
    fields :=
      Table.update (unshown.foldl Table.erase (Table.update context message.fields))
        [("event", .string message.event), ("level", .string message.severity.name),
          ("logger", .string logger)] }

/-- How many lines for people a message takes: line breaks in its event are
kept, and those in its fields are not. -/
def height (message : LogMessage) : Nat :=
  message.event.toList.count '\n' + 1

/-- How many lines for people the logged messages take. -/
def totalHeight (setup : LogSetup) (messages : List LogMessage) : Nat :=
  (messages.filter setup.accepts).foldr (fun message total => height message + total) 0

/-- The lines for the messages that are logged. -/
def lines (setup : LogSetup) (logger : String) (context : LogContext)
    (messages : List LogMessage) : List LogLine :=
  (messages.filter setup.accepts).map (line logger context)

end LogSetup

end PageTree
