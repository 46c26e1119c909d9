import Packrat.Palette
import Packrat.Parse.Event
import Packrat.Rule.Display
import Packrat.Text.Quoted
import Packrat.Text.Truncate

/-!
# Traces in writing

`Trace.lines` writes the log of a parse as indented lines. Entering a rule and
leaving it are a pair of lines, and what happens between them is indented.

By default only rules with a name and rewinds of the cursor are shown. A verbose
trace shows every rule, the captured tokens, remembered outcomes and stalled
repetitions; a very verbose one also the text of each match.
-/

namespace Packrat

namespace Trace

/-- How much a trace shows. -/
inductive Verbosity where
  | standard
  | verbose
  | veryVerbose
deriving DecidableEq, Repr

/-- What a trace is written with. -/
structure Style where
  scope : Scope
  /-- The input of the parse, for matched text. -/
  source : String
  verbosity : Verbosity
  palette : Palette

/-- The lines so far and what is open. -/
structure Page where
  /-- The lines, the last one first. -/
  lines : List String
  /-- Whether each open application was shown, the innermost first. -/
  shown : List Bool
  /-- The indentation of the next line. -/
  depth : Nat

namespace Page

/-- A page without lines. -/
def blank : Page := ⟨[], [], 0⟩

/-- Writes a line that starts with `symbol`. -/
def write (page : Page) (symbol content : String) : Page :=
  { page with
    lines := (String.join (List.replicate page.depth "  ") ++ symbol ++ " " ++ content)
      :: page.lines }

end Page

namespace Style

/-- The most characters of a rule or of matched text. -/
def labelWidth : Nat := 40

/-- Whether more than the default is shown. -/
def isVerbose (style : Style) : Bool := style.verbosity != .standard

/-- Whether applications of `rule` are shown. -/
def shows (style : Style) (rule : Rule) : Bool :=
  (style.scope.name rule.id).isSome || style.isVerbose

/-- The name of the rule, or the beginning of its notation. -/
def label (style : Style) (rule : Rule) : String :=
  match style.scope.name rule.id with
  | some name => style.palette.paint style.palette.blue name
  | none => Text.truncate (rule.display style.scope) labelWidth

/-- The text of a match, quoted. -/
def matchedText (style : Style) (start stop : Nat) : Except Breach String :=
  match Text.slice? start stop style.source with
  | some text =>
    .ok (" " ++ style.palette.dim ++ style.palette.green
      ++ Text.quoted (Text.truncate text labelWidth) ++ style.palette.reset)
  | none => .error (.splitText start)

/-! ## Events -/

/-- The page after `rule` was entered. -/
def enter (style : Style) (page : Page) (rule : Rule) (pos : Nat) : Page :=
  if style.shows rule then
    let page := page.write "▶" (style.label rule ++ " @" ++ toString pos)
    { page with shown := true :: page.shown, depth := page.depth + 1 }
  else { page with shown := false :: page.shown }

/-- The line of an application that is over. -/
def exitLine (style : Style) (page : Page) (rule : Rule) (pos : Nat) :
    Option Nat → Except Breach Page
  | some stop => do
    let content := style.label rule ++ " " ++ toString pos ++ ".." ++ toString stop
    let text ←
      if style.verbosity = .veryVerbose then style.matchedText pos stop else pure ""
    return page.write "●" (content ++ text)
  | none =>
    return page.write "○" (style.label rule ++ " " ++ style.palette.red ++ "@"
      ++ toString pos ++ style.palette.reset)

/-- The page after the innermost application is over. -/
def exit (style : Style) (page : Page) (rule : Rule) (pos : Nat) (stop : Option Nat) :
    Except Breach Page :=
  match page.shown with
  | true :: rest =>
    style.exitLine { page with shown := rest, depth := page.depth - 1 } rule pos stop
  | _ => .ok { page with shown := page.shown.tail }

/-- The page after an event. -/
def add (style : Style) (page : Page) : Event → Except Breach Page
  | .enter rule pos => .ok (style.enter page rule pos)
  | .exit rule pos stop => style.exit page rule pos stop
  | .token token =>
    .ok (if style.isVerbose then
      page.write "⬥" (style.palette.paint style.palette.blue token.name ++ " "
        ++ style.palette.dim ++ token.span.display ++ style.palette.reset)
    else page)
  | .backtrack source target =>
    .ok (page.write "❮❮❮" (style.palette.dim ++ toString source ++ " -> "
      ++ toString target ++ style.palette.reset))
  | .memoHit rule pos stop =>
    .ok (if style.isVerbose then
      let outcome := match stop with
        | some stop => toString pos ++ ".." ++ toString stop
        | none => "@" ++ toString pos ++ " failed"
      page.write "↺" (style.label rule ++ " " ++ outcome)
    else page)
  | .stalled rule pos =>
    .ok (if style.isVerbose then
      page.write "⊘" (style.label rule ++ " stalled @" ++ toString pos)
    else page)
  | .resolved .. => .ok page

/-- The recursive rules that the line of an event asks for. -/
def consulted (style : Style) (event : Event) : List (RuleId × String) :=
  match event with
  | .enter rule _ | .exit rule _ _ | .memoHit rule _ _ | .stalled rule _ =>
    if style.isVerbose && (style.scope.name rule.id).isNone then rule.consulted style.scope
    else []
  | .token _ | .backtrack .. | .resolved .. => []

end Style

/-- The page of a log, the first event first. -/
def page (style : Style) (events : List Event) : Except Breach Page :=
  events.foldlM style.add .blank

/-- The lines of a log, the first event first. -/
def lines (style : Style) (events : List Event) : Except Breach (List String) := do
  return (← page style events).lines.reverse

end Trace

end Packrat
