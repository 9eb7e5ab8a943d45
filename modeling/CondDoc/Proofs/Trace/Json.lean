import CondDoc.Proofs.Schema.Library
import CondDoc.Trace.Export

namespace CondDoc

variable {library : Schema.Library}

theorem BranchKind.named?_name (kind : BranchKind) : named? kind.name = some kind := by
  cases kind with
  | _ => rfl

theorem BranchTrace.lossless_shape (h : library.Documented) :
    BranchTrace.shape.Lossless library.aliasOf := by
  have hkind : library.aliasOf "kind" = "kind" := h.aliasOf_word (by simp) (by simp)
  have hexpr : library.aliasOf "expr" = "expr" := h.aliasOf_word (by simp) (by simp)
  have htaken : library.aliasOf "taken" = "taken" := h.aliasOf_word (by simp) (by simp)
  have hnull : ∀ s : String, Schema.Shape.text.data library.aliasOf s ≠ .null := by
    simp [Schema.Shape.data]
  simp [shape, BranchKind.shape, Schema.Shape.Lossless, Schema.Fields.Lossless, Schema.Fields.names,
    Schema.Fields.rebuild, hkind, hexpr, htaken, hnull, BranchKind.named?_name]

theorem BlockTrace.lossless_shape (h : library.Documented) :
    BlockTrace.shape.Lossless library.aliasOf := by
  have hstart : library.aliasOf "start_line" = "startLine" :=
    h.aliasOf_words ["start", "line"] (by simp) (by simp)
  have hstop : library.aliasOf "end_line" = "endLine" :=
    h.aliasOf_words ["end", "line"] (by simp) (by simp)
  have hbranches : library.aliasOf "branches" = "branches" :=
    h.aliasOf_word (by simp) (by simp)
  have hbranch := BranchTrace.lossless_shape h
  simp [shape, Schema.Shape.Lossless, Schema.Fields.Lossless, Schema.Fields.names,
    Schema.Fields.rebuild, hstart, hstop, hbranches, hbranch]

theorem Trace.lossless_shape (h : library.Documented) :
    Trace.shape.Lossless library.aliasOf := by
  have hblock := BlockTrace.lossless_shape h
  simp [shape, Schema.Shape.Lossless, Schema.Fields.Lossless, Schema.Fields.names,
    Schema.Fields.rebuild, hblock]

/-- The texts of a trace denote one JSON value, whatever the indent, and it makes up the trace. -/
theorem Trace.exists_ofText?_jsonText (h : library.Documented) (trace : Trace) :
    ∃ json, (∀ indent, Json.ofText? (trace.jsonText indent library) = some json) ∧
      Schema.trace json library = .ok trace :=
  h.round_trip (Trace.lossless_shape h) trace

/-- A block with an expression in which a quote, a line feed and a letter beyond ASCII stand. -/
def quotingTrace : Trace :=
  ⟨[⟨-1, 12, [⟨.condition, some "a == \x22\n√\x22", true⟩, ⟨.otherwise, none, false⟩]⟩]⟩

theorem quotingTrace_round_trip :
    Schema.Library.described.Documented ∧
      quotingTrace.jsonText none =
        "\x7b\x22blocks\x22:[\x7b\x22startLine\x22:-1,\x22endLine\x22:12,\x22branches\x22:[" ++
        "\x7b\x22kind\x22:\x22if\x22,\x22expr\x22:\x22a == \\\x22\\n√\\\x22\x22,\x22taken\x22:true\x7d," ++
        "\x7b\x22kind\x22:\x22else\x22,\x22expr\x22:null,\x22taken\x22:false\x7d]\x7d]\x7d" ∧
      ∃ json, (∀ indent, Json.ofText? (quotingTrace.jsonText indent) = some json) ∧
        Schema.trace json = .ok quotingTrace := by
  have hlibrary := Schema.Library.documented_described
  refine ⟨hlibrary, ?_, Trace.exists_ofText?_jsonText hlibrary quotingTrace⟩
  decide +kernel

end CondDoc
