/-!
# `Format.Style` — the ways to show an answer

## Contents

* `OutputFormat` — table, JSON on one line or on many, or compact lines;
* `TableStyle` — the borders of a table;
* the written names of both.
-/

namespace DeviceConsole.Format

/-- How an answer is shown. -/
inductive OutputFormat where
  | table
  | json
  | jsonPretty
  | compact
  deriving DecidableEq, Repr

namespace OutputFormat

/-- The written name. -/
def name : OutputFormat → String
  | table => "table"
  | json => "json"
  | jsonPretty => "json-pretty"
  | compact => "compact"

/-- All formats. -/
def all : List OutputFormat := [table, json, jsonPretty, compact]

/-- The format with a written name. -/
def ofName? (name : String) : Option OutputFormat := all.find? fun format => format.name = name

/-- Whether the answer is shown as JSON. -/
def isJson (format : OutputFormat) : Bool := format = json || format = jsonPretty

end OutputFormat

/-- The borders of a table. -/
inductive TableStyle where
  | modern
  | ascii
  | rounded
  | markdown
  | psql
  deriving DecidableEq, Repr

namespace TableStyle

/-- The written name. -/
def name : TableStyle → String
  | modern => "modern"
  | ascii => "ascii"
  | rounded => "rounded"
  | markdown => "markdown"
  | psql => "psql"

/-- All styles. -/
def all : List TableStyle := [modern, ascii, rounded, markdown, psql]

/-- The style with a written name. -/
def ofName? (name : String) : Option TableStyle := all.find? fun style => style.name = name

end TableStyle

end DeviceConsole.Format
