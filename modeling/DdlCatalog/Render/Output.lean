import DdlCatalog.Text.Quoted
import DdlCatalog.Text.Width
import DdlCatalog.Json.Text
import DdlCatalog.Json.Yaml
import DdlCatalog.Render.Table
/-!
Command output. A renderer writes styled text for terminals, Markdown for pipes and tools, or
JSON or YAML for scripts; `auto` picks text on a terminal and Markdown elsewhere. Everything a
renderer writes is a `Screen`: the text for standard output and the text for standard error.

Terminal styles change no character of the text here, since colours are not written: a styled
line only has its tabs widened to four spaces, and a styled text of several lines has its
shorter lines padded with spaces to the width of the longest.
-/

namespace DdlCatalog.Render

open DdlCatalog.Text

/-- An output format. -/
inductive Mode where
  | auto
  | text
  | markdown
  | json
  | yaml
deriving DecidableEq, Repr, Inhabited

namespace Mode

/-- The names `--output` accepts, in the order help lists them. -/
def names : List String := ["auto", "text", "markdown", "json", "yaml"]

/-- The format named `s`; the empty name is `auto` and `md` is Markdown. -/
def parse (s : String) : Except String Mode :=
  match s with
  | "" | "auto" => .ok .auto
  | "text" => .ok .text
  | "markdown" | "md" => .ok .markdown
  | "json" => .ok .json
  | "yaml" => .ok .yaml
  | _ => .error ("invalid output format " ++ quote s ++
      " (expected one of auto, text, markdown, json, yaml)")

/-- The name of a format. -/
def name : Mode → String
  | .auto => "auto"
  | .text => "text"
  | .markdown => "markdown"
  | .json => "json"
  | .yaml => "yaml"

end Mode

/-- Text written to standard output and to standard error. -/
structure Screen where
  out : String := ""
  err : String := ""
deriving Repr, Inhabited

instance : Append Screen := ⟨fun a b => ⟨a.out ++ b.out, a.err ++ b.err⟩⟩

/-- Text for standard output. -/
def Screen.stdout (s : String) : Screen := { out := s }

/-- Text for standard error. -/
def Screen.stderr (s : String) : Screen := { err := s }

/-- A renderer's settings. -/
structure Renderer where
  mode : Mode
  /-- Whether the output goes to a terminal. -/
  tty : Bool
  /-- Whether styles apply: on a terminal unless colours are turned off. -/
  styled : Bool
deriving Repr, Inhabited

/-- A renderer for a stream that is a terminal or not; colours are off when `noColor`. -/
def Renderer.new (mode : Mode) (tty : Bool) (noColor : Bool := false) : Renderer :=
  { mode := mode, tty := tty, styled := tty && !noColor }

/-- Text with its tabs widened to four spaces. -/
def widenTabs (s : String) : String := s.replace "\t" "    "

/-- Text through a terminal style: tabs widened, and when styles apply, carriage returns before
line breaks dropped and the lines of a multi-line text padded to the same width. -/
def styleText (styled : Bool) (s : String) : String :=
  let s := widenTabs s
  if !styled then s
  else
    let s := s.replace "\r\n" "\n"
    let lines := s.splitOn "\n"
    if lines.length ≤ 1 then s
    else
      let width := lines.foldl (fun m l => max m (textWidth l)) 0
      "\n".intercalate (lines.map fun l => l.pushn ' ' (width - textWidth l))

namespace Renderer

/-- The format in effect: `auto` resolved by the terminal setting. -/
def effective (r : Renderer) : Mode :=
  match r.mode with
  | .auto => if r.tty then .text else .markdown
  | m => m

/-- A line on standard output. -/
def line (_ : Renderer) (s : String) : Screen := .stdout (s ++ "\n")

/-- Styled text on a line of standard output. -/
def styledLine (r : Renderer) (s : String) : Screen := .stdout (styleText r.styled s ++ "\n")

/-- A section header: `#` marks and a blank line in Markdown, a styled line elsewhere. -/
def header (r : Renderer) (level : Nat) (text : String) : Screen :=
  if r.effective == .markdown then
    .stdout ("".pushn '#' (max level 1) ++ " " ++ text ++ "\n\n")
  else r.styledLine text

/-- A success line. -/
def success (r : Renderer) (msg : String) : Screen := r.styledLine ("✓ " ++ msg)

/-- A warning line. -/
def warning (r : Renderer) (msg : String) : Screen := r.styledLine ("! " ++ msg)

/-- An error line, on standard error. -/
def error (r : Renderer) (msg : String) : Screen := .stderr (styleText r.styled ("✗ " ++ msg) ++ "\n")

/-- A de-emphasised line. -/
def muted (r : Renderer) (msg : String) : Screen := r.styledLine msg

/-- A table: Markdown followed by a blank line, or drawn with light lines. -/
def table (r : Renderer) (g : Grid) : Screen :=
  if r.effective == .markdown then .stdout (g.markdown ++ "\n") else .stdout g.light

/-- A document as JSON or YAML when that is the format in effect; `none` otherwise. The
document is built for the format: `yaml` tells whether it is YAML. -/
def structured (r : Renderer) (doc : Bool → Json) : Option Screen :=
  match r.effective with
  | .json => some (.stdout (Json.document (doc false)))
  | .yaml => some (.stdout (Json.yamlDocument (doc true)))
  | _ => none

end Renderer

end DdlCatalog.Render
