import CondDoc.Schema.Block
import CondDoc.Schema.Library
import CondDoc.Trace.Basic

namespace CondDoc

def BranchKind.shape : Schema.Shape BranchKind := .choice BranchKind.name BranchKind.named?

def BranchTrace.shape : Schema.Shape BranchTrace :=
  .record <| (((Schema.Fields.start BranchTrace.mk).field
    "kind" BranchKind.shape none BranchTrace.kind).field
    "expr" (.optional .text) (some none) BranchTrace.expression).field
    "taken" .boolean (some false) BranchTrace.taken

def BlockTrace.shape : Schema.Shape BlockTrace :=
  .record <| (((Schema.Fields.start BlockTrace.mk).field
    "start_line" .integer none BlockTrace.start).field
    "end_line" .integer none BlockTrace.stop).field
    "branches" (.list BranchTrace.shape) (some []) BlockTrace.branches

def Trace.shape : Schema.Shape Trace :=
  .record <| (Schema.Fields.start Trace.mk).field
    "blocks" (.list BlockTrace.shape) (some []) Trace.blocks

/-- The trace that JSON data makes up. -/
def Schema.trace (json : Json) (library : Library := .described) : Checked Trace :=
  library.validate Trace.shape json

end CondDoc
