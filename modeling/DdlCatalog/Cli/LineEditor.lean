import DdlCatalog.Text.Blank
/-!
Reading lines from keys, as an interactive line editor does.

Keys arrive one character at a time. Escape sequences are decoded first: the arrow keys move
the cursor, Home and End go to the ends of the line, and Delete deletes; other sequences are
dropped. The editor then applies each key to its line:

* printable keys are inserted at the cursor; Enter (carriage return or line feed) hands the line
  over;
* Ctrl-C abandons the line; Ctrl-D deletes under the cursor, or ends the input on an empty line;
* Backspace, Ctrl-A, Ctrl-E, Ctrl-B, Ctrl-F, Ctrl-K, Ctrl-U, Ctrl-W and Ctrl-Y edit as usual;
* Tab completes the word before the cursor. One candidate is inserted; several candidates are
  reduced to what they have in common. When they have nothing in common the editor shows them
  and waits: Tab again starts selecting among them, and Enter takes the selection.

Candidates come from a completion tree: words, each followed by the words that may come after
it. A word that is typed in full moves completion to the words after it.
-/

namespace DdlCatalog.Cli

/-! ### Completion trees -/

/-- A word that completion offers, with the words that may follow it; or a list of words known
only when completion runs. -/
inductive CompletionTree where
  | word (name : String) (next : List CompletionTree)
  | computed (names : List String)

/-- The words of an entry, each with the space completion adds after it. -/
def CompletionTree.names : CompletionTree → List (List Char)
  | .word name _ => [name.toList ++ [' ']]
  | .computed names => names.map (·.toList ++ [' '])

/-- The entries that may follow an entry. -/
def CompletionTree.following : CompletionTree → List CompletionTree
  | .word _ next => next
  | .computed _ => []

/-- Whether `p` starts `s`. -/
def startsWithChars (s p : List Char) : Bool := s.take p.length == p

/-- What each entry offers for a line: entries whose word the line starts with complete to the
words after them, and words that start with the line complete to their rest. -/
structure Matches where
  found : List (List Char) := []
  offset : Nat := 0
  next : Option CompletionTree := none
  whole : Bool := false

/-- Collects the matches of every word of every entry against a line. -/
def matchEntries (line : List Char) (entries : List CompletionTree) : Matches :=
  entries.foldl (fun acc entry =>
    entry.names.foldl (fun acc name =>
      if line.length ≥ name.length then
        if startsWithChars line name then
          { found := acc.found ++ [if line.length == name.length then [' '] else name],
            offset := name.length, next := some entry, whole := true }
        else acc
      else if startsWithChars name line then
        { acc with found := acc.found ++ [name.drop line.length], offset := line.length,
                   next := some entry }
      else acc) acc) {}

/-- The candidates for the text before the cursor and how many of its characters they replace.
A word typed in full, followed by more text, passes that text on to the words after it. -/
def completeLine : Nat → List CompletionTree → List Char → List (List Char) × Nat
  | 0, _, _ => ([], 0)
  | fuel + 1, entries, text =>
    let line := text.dropWhile Text.isBlank
    let ms := matchEntries line entries
    match ms.found, ms.next with
    | [_], some entry =>
      let rest := line.drop ms.offset
      match rest.dropWhile (· == ' ') with
      | [] => if ms.whole then completeLine fuel entry.following [] else (ms.found, ms.offset)
      | more => completeLine fuel entry.following more
    | _, _ => (ms.found, ms.offset)

/-- The length of the prefix all candidates share. -/
def sharedLength : List (List Char) → Nat
  | [] => 0
  | first :: rest =>
    ((List.range first.length).takeWhile fun i =>
      rest.all fun c => (c.drop i).head? == (first.drop i).head?).length

/-! ### Keys -/

-- the characters the editor gives a meaning
namespace Key

def lineStart : Char := '\x01'
def backward : Char := '\x02'
def interrupt : Char := '\x03'
def delete : Char := '\x04'
def lineEnd : Char := '\x05'
def forward : Char := '\x06'
def bell : Char := '\x07'
def ctrlH : Char := '\x08'
def tab : Char := '\t'
def ctrlJ : Char := '\n'
def kill : Char := '\x0b'
def ctrlL : Char := '\x0c'
def enter : Char := '\r'
def next : Char := '\x0e'
def prev : Char := '\x10'
def transpose : Char := '\x14'
def ctrlU : Char := '\x15'
def ctrlW : Char := '\x17'
def ctrlY : Char := '\x19'
def escape : Char := '\x1b'
def backspace : Char := '\x7f'

end Key

/-- Where the decoding of an escape sequence stands. -/
inductive KeyDecoder where
  | plain
  /-- After the escape key. -/
  | escape
  /-- After the escape key and `[`, with the digits and semicolons read since. -/
  | sequence (params : List Char)
  /-- After the escape key and `O`. -/
  | shifted
deriving Inhabited

/-- The key a complete escape sequence stands for, if the editor knows it. -/
def sequenceKey (params : List Char) : Char → Option Char
  | 'D' => some Key.backward
  | 'C' => some Key.forward
  | 'A' => some Key.prev
  | 'B' => some Key.next
  | 'H' => some Key.lineStart
  | 'F' => some Key.lineEnd
  | '~' => if params.takeWhile (· != ';') == ['3'] then some Key.delete else none
  | _ => none

/-- Feeds one character to the decoder: the keys it completes, and the decoder after it. -/
def KeyDecoder.feed : KeyDecoder → Char → List Char × KeyDecoder
  | .plain, c => if c == Key.escape then ([], .escape) else ([c], .plain)
  | .escape, c =>
    if c == '[' then ([], .sequence [])
    else if c == 'O' then ([], .shifted)
    else if c == Key.escape then ([], .escape)
    -- the meta keys (word motions) are not bound
    else if c == 'b' || c == 'f' || c == 'd' || c == Key.transpose || c == Key.backspace then ([], .plain)
    else ([c], .plain)
  | .sequence params, c =>
    if c.isDigit || c == ';' then ([], .sequence (params ++ [c]))
    else ((sequenceKey params c).toList, .plain)
  | .shifted, c =>
    if c == 'H' then ([Key.lineStart], .plain)
    else if c == 'F' then ([Key.lineEnd], .plain)
    else if c == Key.escape then (['O'], .escape)
    else (['O', c], .plain)

/-! ### The editor -/

/-- What a key can finish: a line, an abandoned line, or the end of input. -/
inductive LineEvent where
  | line (text : String)
  | interrupted
  | finished
deriving Inhabited

/-- The state of the editor. -/
structure LineEditor where
  text : List Char := []
  cursor : Nat := 0
  /-- The text the last kill removed. -/
  killed : List Char := []
  /-- Whether candidates are shown. -/
  completing : Bool := false
  /-- Whether one of the shown candidates is being selected. -/
  selecting : Bool := false
  candidates : List (List Char) := []
  choice : Int := -1
  /-- The line the shown candidates were computed for. -/
  source : Option (List Char) := none
deriving Inhabited

namespace LineEditor

/-- Inserts text at the cursor. -/
def insert (e : LineEditor) (cs : List Char) : LineEditor :=
  { e with text := e.text.take e.cursor ++ cs ++ e.text.drop e.cursor, cursor := e.cursor + cs.length }

/-- Stops selecting, and forgets the candidates. -/
def stopSelecting (e : LineEditor) : LineEditor :=
  { e with selecting := false, candidates := [], choice := -1, source := none }

/-- Stops showing candidates. -/
def stopCompleting (e : LineEditor) : LineEditor := { e.stopSelecting with completing := false }

/-- Moves the selection on by one, or inserts the only candidate. -/
def selectNext (e : LineEditor) : LineEditor :=
  match e.candidates with
  | [one] => (e.insert one).stopCompleting
  | cs => { e with choice := (e.choice + 1) % cs.length }

/-- The Tab key: selects among shown candidates, or computes them for the text before the
cursor. -/
def tabKey (e : LineEditor) (complete : List Char → List (List Char) × Nat) : LineEditor :=
  if e.selecting then e.selectNext
  else if e.completing && e.source == some e.text then
    { e with selecting := true, choice := -1 }.selectNext
  else
    let e := { e.stopSelecting with source := some e.text }
    let (found, _) := complete (e.text.take e.cursor)
    match found with
    | [] => e.stopCompleting
    | [one] => if e.completing then { e with candidates := found } else (e.insert one).stopCompleting
    | first :: _ =>
      let shared := sharedLength found
      if !e.completing && shared > 0 then (e.insert (first.take shared)).stopCompleting
      else { e with completing := true, candidates := found }

/-- Deletes the character before the cursor. -/
def backspace (e : LineEditor) : LineEditor :=
  if e.cursor == 0 then e
  else { e with text := e.text.take (e.cursor - 1) ++ e.text.drop e.cursor, cursor := e.cursor - 1 }

/-- Deletes back to the start of the word before the cursor. -/
def deleteWordBack (e : LineEditor) : LineEditor :=
  if e.cursor == 0 then e
  else
    let before := e.text.take e.cursor
    -- the word starts after the last space before the cursor's previous character
    let start := (before.dropLast.reverse.takeWhile (· != ' ')).length
    let start := before.length - 1 - start
    { e with killed := before.drop start, text := before.take start ++ e.text.drop e.cursor,
             cursor := start }

/-- Applies one key. Returns the editor after it, and what the key finished, if anything. -/
def press (e : LineEditor) (complete : List Char → List (List Char) × Nat) (k : Char) :
    LineEditor × Option LineEvent := Id.run do
  let mut e := e
  if e.selecting then
    if k == Key.enter || k == Key.ctrlJ then
      match e.candidates[e.choice.toNat]? with
      | some c => return ((e.insert c).stopCompleting, none)
      | none => return (e.stopCompleting, none)
    else if k == Key.tab || k == Key.forward then return (e.selectNext, none)
    else if k == Key.bell || k == Key.interrupt then return (e.stopCompleting, none)
    else if k == Key.lineStart || k == Key.lineEnd || k == Key.prev || k == Key.next ||
        k == Key.backward then return (e, none)
    else e := e.stopSelecting
  let mut keep := false
  let mut event : Option LineEvent := none
  if k == Key.bell then
    if e.completing then e := e.stopCompleting
  else if k == Key.tab then
    e := e.tabKey complete
    keep := true
  else if k == Key.ctrlU then
    e := { e with killed := if e.cursor == 0 then e.killed else e.text.take e.cursor,
                  text := e.text.drop e.cursor, cursor := 0 }
  else if k == Key.kill then
    e := { e with killed := e.text.drop e.cursor, text := e.text.take e.cursor }
  else if k == Key.lineStart then e := { e with cursor := 0 }
  else if k == Key.lineEnd then e := { e with cursor := e.text.length }
  else if k == Key.backspace || k == Key.ctrlH then
    if !e.text.isEmpty then
      e := e.backspace
      if e.completing then e := e.tabKey complete
  else if k == Key.ctrlW then e := e.deleteWordBack
  else if k == Key.ctrlY then
    if !e.killed.isEmpty then e := e.insert e.killed
  else if k == Key.enter || k == Key.ctrlJ then
    event := some (.line (String.ofList e.text))
    e := { e with text := [], cursor := 0 }
  else if k == Key.backward then e := { e with cursor := e.cursor - 1 }
  else if k == Key.forward then e := { e with cursor := min (e.cursor + 1) e.text.length }
  else if k == Key.delete then
    if !e.text.isEmpty || e.completing then
      e := { e with text := e.text.take e.cursor ++ e.text.drop (e.cursor + 1) }
    else
      event := some .finished
      e := { e with text := [], cursor := 0 }
  else if k == Key.interrupt then
    if e.completing then e := e.stopCompleting
    else
      event := some .interrupted
      e := { e with text := [], cursor := 0 }
  else if k == Key.prev || k == Key.next || k == Key.ctrlL || k == '\x12' || k == '\x13' ||
      k == '\x1a' || k == Key.transpose then
    pure ()
  else
    e := e.insert [k]
    if e.completing then
      e := e.tabKey complete
      keep := true
  if e.completing && !keep then e := e.stopCompleting
  return (e, event)

/-- The end of input: an unfinished line is handed over as if Enter were pressed, and an empty
one ends the input. -/
def finish (e : LineEditor) (complete : List Char → List (List Char) × Nat) :
    LineEditor × Option LineEvent :=
  if e.text.isEmpty then ({ e with text := [], cursor := 0 }, some .finished)
  else e.press complete Key.enter

end LineEditor

end DdlCatalog.Cli
