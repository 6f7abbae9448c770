import GpuScript.Text.Numeral

/-!
# Log records

What reading a script has to say besides its result: records with a level, and a filter that keeps
those up to a level. A log collects the text of its records and hands it on in whole lines.
-/

namespace GpuScript

/-- The level of a log record, the most urgent one first. -/
inductive LogLevel where
  | error | warn | info | debug | trace
  deriving DecidableEq

namespace LogLevel

/-- The place of a level, the most urgent one first. -/
def rank : LogLevel → Nat
  | error => 1
  | warn => 2
  | info => 3
  | debug => 4
  | trace => 5

/-- The name of a level. -/
def name : LogLevel → String
  | error => "ERROR"
  | warn => "WARN"
  | info => "INFO"
  | debug => "DEBUG"
  | trace => "TRACE"

end LogLevel

/-- The levels up to which records are kept: none of them, or all up to a level. -/
inductive LogFilter where
  | off
  | upTo (level : LogLevel)
  deriving DecidableEq

namespace LogFilter

/-- The name of a filter. -/
def name : LogFilter → String
  | off => "OFF"
  | upTo level => level.name

/-- The filter keeps records of a level. -/
def keeps : LogFilter → LogLevel → Bool
  | off, _ => false
  | upTo most, level => level.rank ≤ most.rank

end LogFilter

/-- Something to say. -/
structure LogRecord where
  /-- How urgent it is. -/
  level : LogLevel
  /-- What there is to say. -/
  message : String
  deriving DecidableEq

namespace LogRecord

/-- A record about a line. -/
def atLine (level : LogLevel) (line : Nat) (message : String) : LogRecord :=
  ⟨level, "line " ++ Text.decimalText line ++ ": " ++ message⟩

/-- The text of a record, with the line end after it. -/
def text (record : LogRecord) : String :=
  record.level.name ++ ": " ++ record.message ++ "\n"

end LogRecord

/-- Text that is handed on in whole lines: what came after the last line end waits. -/
structure LineBuffer where
  /-- The text after the last line end. -/
  pending : List Char
  deriving DecidableEq

namespace LineBuffer

/-- A buffer without text. -/
def empty : LineBuffer := ⟨[]⟩

/-- The first line of a text without its end, and the text after it, for each line that has an
end; then what is left. -/
def splitLines : List Char → List (List Char) × List Char
  | [] => ([], [])
  | character :: rest =>
    let (lines, last) := splitLines rest
    if character = '\n' then
      ([] :: lines, last)
    else
      match lines with
      | [] => ([], character :: last)
      | first :: others => ((character :: first) :: others, last)

/-- The lines that are complete after more text, and the buffer then. -/
def write (buffer : LineBuffer) (text : String) : List String × LineBuffer :=
  let (lines, last) := splitLines (buffer.pending ++ text.toList)
  (lines.map String.ofList, ⟨last⟩)

/-- The text that waits, as a line of its own, and the buffer then. -/
def flush (buffer : LineBuffer) : List String × LineBuffer :=
  if buffer.pending.isEmpty then ([], buffer) else ([String.ofList buffer.pending], empty)

end LineBuffer

/-- A log: the records that it keeps and the text on its way. -/
structure Log where
  /-- The records that the log keeps. -/
  filter : LogFilter
  /-- The text on its way. -/
  buffer : LineBuffer
  deriving DecidableEq

namespace Log

/-- A log without text. -/
def new (filter : LogFilter) : Log :=
  ⟨filter, LineBuffer.empty⟩

/-- The lines that a record adds, and the log then. -/
def write (log : Log) (record : LogRecord) : List String × Log :=
  if log.filter.keeps record.level then
    let (lines, buffer) := log.buffer.write record.text
    (lines, { log with buffer := buffer })
  else
    ([], log)

/-- The lines that records add, and the log then. -/
def writeAll (log : Log) : List LogRecord → List String × Log
  | [] => ([], log)
  | record :: rest =>
    let (lines, log) := log.write record
    let (others, log) := log.writeAll rest
    (lines ++ others, log)

/-- The lines that a new log writes for records. -/
def lines (filter : LogFilter) (records : List LogRecord) : List String :=
  ((new filter).writeAll records).1

end Log

end GpuScript
