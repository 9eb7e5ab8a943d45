import CondDoc.Block.Basic
import CondDoc.Schema.Field

namespace CondDoc.Schema

def branchKind : Json → Checked BranchKind := choice BranchKind.named?

def branchFields (entries : List (String × Json)) : Checked Branch := do
  let kind := field "kind" [] branchKind none entries
  let expression := field "expression" [] optionalString (some none) entries
  let start := field "start_line" [] integer none entries
  let stop := field "end_line" [] integer none entries
  let (guard, start, stop) ←
    (((kind.map fun k e s t => (Guard.make k e, s, t)).and expression).and start).and stop
  match guard with
  | .ok guard => return ⟨guard, start, stop⟩
  | .error fault => .fail (.rule fault.message)

def branch : Json → Checked Branch := record branchFields

/-- The block that lines and branches make up. -/
def assemble (start stop : Checked Int) (branches : Checked (List Branch)) : Checked Block := do
  let block ← ((start.map Block.mk).and stop).and branches
  match Block.fault? block.branches with
  | none => return block
  | some fault => .fail (.rule fault.message)

def blockFields (entries : List (String × Json)) : Checked Block :=
  assemble (field "start_line" [] integer none entries) (field "end_line" [] integer none entries)
    (field "branches" [] (list branch) none entries)

def block : Json → Checked Block := record blockFields

end CondDoc.Schema
