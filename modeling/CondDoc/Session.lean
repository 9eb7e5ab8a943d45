import CondDoc.Document
import CondDoc.Schema.Options
import CondDoc.Trace.Export

namespace CondDoc

structure Session where
  text : String
  arguments : Arguments
  options : Options
  trace : Trace

namespace Session

def start : Session := ⟨"", .data (.mapping []), .standard, ⟨[]⟩⟩

inductive Command where
  | setArguments (arguments : Arguments)
  | addDefaults (defaults : Datum)
  | setOptions (options : Json)
  | setText (text : String)
  | append (text : String)
  | scan
  | run
  | summary
  | check (expression : String)
  | resolve (path : String)

inductive Answer where
  | arguments (arguments : Arguments)
  | done
  | text (text : String)
  | blocks (blocks : List Block)
  | rendering (rendering : Rendering)
  | trace (trace : Trace)
  | truth (truth : Bool)
  | value (value : Option Value)

/-- What the arguments are looked up in. -/
def context (session : Session) : Except Error Expression.Context := do
  let resolver ← (Resolver.ofArguments session.arguments).mapError .data
  return ⟨resolver, session.options⟩

/-- A step that fails leaves everything as it was. -/
def step (session : Session) : Command → Except Error (Session × Answer)
  | .setArguments arguments =>
    return ({ session with arguments := arguments }, .arguments arguments)
  | .addDefaults defaults => do
    let merged ← (session.arguments.addDefaults defaults).mapError .data
    return ({ session with arguments := .data merged }, .arguments (.data merged))
  | .setOptions json => do
    let options ← (Schema.options json).mapError .record
    return ({ session with options := options }, .done)
  | .setText text => return ({ session with text := text }, .text text)
  | .append text =>
    let whole := session.text ++ text
    return ({ session with text := whole }, .text whole)
  | .scan => do
    let found ← (blocks session.options session.text).mapError .template
    return (session, .blocks found)
  | .run => do
    let rendering ← render session.text session.arguments session.options
    return ({ session with text := rendering.text, trace := rendering.trace },
      .rendering rendering)
  | .summary => return (session, .trace session.trace)
  | .check expression => do
    let context ← session.context
    let truth ← (Expression.evaluateText context expression).mapError fun cause =>
      .template ⟨cause, none, none⟩
    return (session, .truth truth)
  | .resolve path => do
    let context ← session.context
    return (session, .value (context.resolver.resolve? path))

/-- The answers to commands, some of which may be faulty in themselves. -/
def run (session : Session) : List (Except Error Command) → List (Except Error Answer)
  | [] => []
  | .error error :: commands => .error error :: run session commands
  | .ok command :: commands =>
    match session.step command with
    | .ok (next, answer) => .ok answer :: run next commands
    | .error error => .error error :: run session commands

end Session

end CondDoc
