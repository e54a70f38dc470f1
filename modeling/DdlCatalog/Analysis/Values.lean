import DdlCatalog.Syntax.Node
import DdlCatalog.Numeric.Decimal
import DdlCatalog.Numeric.ByteSize
import DdlCatalog.Analysis.State
/-!
Reading values out of statement trees: names and their qualifiers, string literals, numbers,
keywords, expression and body texts, and the accounts of `DEFINER` clauses.

Several readers take an optional node, since the clause they read may be absent; an absent
clause reads as empty.
-/

namespace DdlCatalog.Analysis

open DdlCatalog.Sql
open DdlCatalog.Syntax
open DdlCatalog.Catalog

/-- The one to three name parts of an identifier tree, outermost qualifier first. -/
def identifierParts : Option Node → List String
  | some n => n.nameParts
  | none => []

/-- The last name part of an identifier tree. -/
def identifierName (n : Option Node) : String := (identifierParts n).getLastD ""

/-- Splits name parts into schema and object name; the schema is empty when unqualified. -/
def splitQualified (parts : List String) : String × String :=
  match parts.reverse with
  | [] => ("", "")
  | [name] => ("", name)
  | name :: schema :: _ => (schema, name)

/-- The string literals of a text literal, joined, skipping a charset introducer. -/
def textValue : Option Node → String
  | some n => Utf8.decode ((n.terminals.filter (·.kind == .string)).flatMap (·.literal))
  | none => ""

/-- The value of a charset or collation name, lower case. -/
def nameValue : Option Node → String
  | some n => Text.lower n.value
  | none => ""

/-- The first number among the direct terminals. -/
def numberOf (n : Node) : Option Token := n.terminals.find? (·.kind == .number)

/-- The last number among the direct terminals. -/
def lastNumberOf (n : Node) : Option Token := n.terminals.reverse.find? (·.kind == .number)

/-- Whether any of the words is a direct keyword of `n`. -/
def hasWord (n : Node) (words : List String) : Bool := n.words.any (words.contains ·)

/-- The direct word following the keyword `kw`, upper case, or empty. -/
def wordAfter (n : Node) (kw : String) : String :=
  let rec go : List Token → String
    | t :: u :: rest => if t.isWord kw && u.kind == .ident then Text.upper u.text else go (u :: rest)
    | _ => ""
  go n.terminals

/-- The text of the expression child, or empty. -/
def exprText (n : Node) : String := ((n.child .expr).map Node.text).getD ""

/-- The text of the body child, or empty. -/
def bodyText (n : Node) : String := ((n.child .body).map Node.text).getD ""

/-- The names of a column list. -/
def columnListNames : Option Node → List String
  | some n => (n.childrenOf .identifier).map fun i => identifierName (some i)
  | none => []

/-- Where a construct starts; position zero for an absent one. -/
def nodePos : Option Node → Position
  | some n => n.start
  | none => ⟨0, 0, 0⟩

namespace Analyze

/-- Reads a number token as a 32-bit count, reporting one that does not fit. -/
def countOf (tok : Option Token) (pos : Position) (object : String) : Analyze (Option Nat) :=
  match tok with
  | none => pure none
  | some t =>
    match Numeric.parseSmallCount? t.text with
    | some v => pure (some v)
    | none => do
      report .error .valueOutOfRange object pos s!"value {t.text} is out of range"
      pure none

/-- The first number of a node as a 32-bit count. -/
def intValue (n : Node) (object : String) : Analyze (Option Nat) :=
  countOf (numberOf n) n.start object

/-- The size of a tablespace or logfile group option, reporting one that does not read. -/
def sizeValue (opt : Node) (object : String) : Analyze (Option Nat) :=
  match opt.child .sizeNumber with
  | none => pure none
  | some n =>
    match Numeric.parseSize n.value with
    | .ok v => pure (some v)
    | .error e => do
      report .error .valueOutOfRange object n.start s!"size {n.value} is out of range: {e.message}"
      pure none

/-- The account of the `DEFINER` clause as `name@host`, registering the user; `CURRENT_USER`
stays as it is, and there is no account without a clause. -/
def definer (stmt : Node) : Analyze String := do
  match (stmt.child .definerClause).bind (·.child .userName) with
  | none => pure ""
  | some user =>
    let terms := user.terminals
    if (terms.head?.map (·.isWord "CURRENT_USER")).getD false then return "CURRENT_USER"
    let step := fun (st : String × String × Bool) (t : Token) =>
      let (name, host, afterAt) := st
      match t.kind with
      | .at => (name, host, true)
      | .percent => if afterAt then (name, "%", afterAt) else st
      | .ident | .quotedIdent | .string =>
        if afterAt then (name, t.text, afterAt)
        else if name.isEmpty then (t.text, host, afterAt) else st
      | _ => st
    let (name, host, _) := terms.foldl step ("", "", false)
    modifyGet fun a =>
      let (u, c) := a.catalog.ensureUser name host
      (u.account, { a with catalog := c })

end Analyze

end DdlCatalog.Analysis
