import StubLibc.Capability
import StubLibc.Json.Document

/-!
# The support matrix

Every exported function with its header and disposition, and how many of each disposition there
are, as a JSON document or as a Markdown table.
-/

namespace StubLibc

/-- The capability table as a report. -/
structure SupportMatrix where
  entries : List Capability
  globals : List String
  deriving DecidableEq, Repr

namespace SupportMatrix

/-- The forms of the report. -/
inductive Form where
  | json
  | markdown
  deriving DecidableEq, Repr

def Form.all : List Form := [.json, .markdown]

/-- The name of a form on the command line. -/
def Form.name : Form → String
  | json => "json"
  | markdown => "markdown"

/-- The report on the whole table. -/
def full : SupportMatrix := ⟨Capability.all, Capability.globals⟩

def total (matrix : SupportMatrix) : Nat := matrix.entries.length

def trapped (matrix : SupportMatrix) : Nat := (matrix.entries.filter Capability.isTrap).length

def provided (matrix : SupportMatrix) : Nat := matrix.total - matrix.trapped

open Json (Document)

/-- A function as a JSON object. -/
def entryDocument (capability : Capability) : Document :=
  .object
    [("symbol", .text capability.symbol), ("family", .text capability.family.name),
      ("header", .text capability.family.header),
      ("disposition", .text capability.disposition.name)]

def document (matrix : SupportMatrix) : Document :=
  .object
    [("symbols", .list (matrix.entries.map entryDocument)),
      ("globals", .list (matrix.globals.map .text)),
      ("summary",
        .object
          [("total", .natural matrix.total), ("provided", .natural matrix.provided),
            ("trapped", .natural matrix.trapped)])]

/-- A function as a table row. -/
def entryRow (capability : Capability) : String :=
  "| `" ++ capability.symbol ++ "` | `<" ++ capability.family.header ++ ">` | " ++
    capability.disposition.name ++ " |\n"

def markdown (matrix : SupportMatrix) : String :=
  "# doomlibc support matrix\n\n" ++ Numeral.ofNat matrix.total ++ " symbols: " ++
    Numeral.ofNat matrix.provided ++ " provided, " ++ Numeral.ofNat matrix.trapped ++
    " trapped.\n\n| symbol | header | disposition |\n|---|---|---|\n" ++
    String.join (matrix.entries.map entryRow) ++
    "\nGlobals: " ++ ", ".intercalate matrix.globals ++ "\n"

def render (matrix : SupportMatrix) : Form → String
  | .json => String.ofList (matrix.document.pretty ++ ['\n'])
  | .markdown => matrix.markdown

end SupportMatrix

end StubLibc
