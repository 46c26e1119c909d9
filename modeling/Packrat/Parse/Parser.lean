import Packrat.Parse.Apply

/-!
# Parsing

A `Parser` is a root rule with limits. `Parser.run` applies it to an input and
reports how that ended and what happened on the way.

A parse gives the one token that covers all that was matched. If the root rule
emitted no such token, one is made for it, named after the rule, with all
emitted tokens as its children.
-/

namespace Packrat

/-- A root rule with the bounds of its parses. -/
structure Parser where
  root : Rule
  limits : Limits
  /-- Whether outcomes of named rules are remembered. -/
  memoize : Bool

namespace Parser

/-- The parser of `root` with the standard limits. -/
def ofRule (root : Rule) : Parser := ⟨root, .standard, false⟩

/-- The name of the token of a root rule without a name. -/
def unnamedRoot : String := "root"

/-- The token of a whole parse. -/
def rootToken (scope : Scope) (root : Rule) (st : ParseState) : Except Breach Token := do
  let matched ← Span.make 0 st.position
  let tokens := st.emitted.toList
  let wrapped := Token.make ((scope.name root.id).getD unnamedRoot) st.input matched tokens
  match tokens with
  | [only] => if only.span = matched then return only else wrapped
  | _ => wrapped

/-- Applies the root rule and judges the outcome. With `complete`, input that
remains is an error. -/
def execute (p : Parser) (scope : Scope) (input : String) (complete : Bool) :
    Run (Except ParseError Token) := do
  let setting : Setting := ⟨scope, p.limits⟩
  let (matched, st) ←
    apply setting p.limits.recursionLimit.toNat p.root (.start input)
  let cx ← get
  match cx.fatal with
  -- a limit outweighs whatever the root rule made of it
  | some error => return .error (.limit error)
  | none =>
    if !matched then return .error (.noMatch cx.failure)
    if complete && !st.isAtEnd then
      modify (·.expect st.position "end of input")
      return .error (.incomplete st.position (← get).failure)
    return .ok (← Apply.check (rootToken scope p.root st))

/-- How a parse ended and what happened on the way, the first event first. -/
structure Report where
  result : Except Breach (Except ParseError Token)
  events : List Event

/-- Parses `input`, or a part of it that starts at its beginning. -/
def run (p : Parser) (scope : Scope) (input : String) (complete : Bool) : Report :=
  match p.execute scope input complete (.start p.memoize) with
  | .ok result cx => ⟨.ok result, cx.log.reverse⟩
  | .error breach cx => ⟨.error breach, cx.log.reverse⟩

/-- Matches the root rule against the beginning of `input`. -/
def parse (p : Parser) (scope : Scope) (input : String) : Report := p.run scope input false

/-- Matches the root rule against all of `input`. -/
def parseComplete (p : Parser) (scope : Scope) (input : String) : Report :=
  p.run scope input true

/-- The record of a parser. -/
def inspect (scope : Scope) (p : Parser) : Text.Inspect :=
  .record "Parser" [("root", .atom (p.root.debug scope)), ("limits", p.limits.inspect),
    ("memoize", .bool p.memoize)]

end Parser

end Packrat
