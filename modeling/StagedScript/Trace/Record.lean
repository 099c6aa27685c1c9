import StagedScript.Json.Record
import StagedScript.Trace

/-!
# Records of traces

Traces and checks as JSON records.

**Results.** A record of a match, a transformation, a merging or an unsatisfied check reads back
(`Match.ofJson_toJson`, `Transformation.ofJson_toJson`, `Merge.ofJson_toJson`,
`Unsatisfied.ofJson_toJson`).
-/

namespace StagedScript
namespace Json

/-- The strings of an array of strings are those that it was made of. -/
theorem textsAt_texts {json : Json} {key : String} {values : List String}
    (field : json.field? key = some (texts values)) : json.textsAt key = values := by
  have read : ∀ more : List String, (more.map Json.text).filterMap text? = more := by
    intro more
    induction more with
    | nil => rfl
    | cons value rest ih => simp [text?, ih]
  simp [textsAt, itemsAt, member, field, texts, items?, read]

end Json

namespace Match

def toJson (entry : Match) : Json :=
  .object
    [("rule", .text entry.rule), ("left", .text entry.left), ("right", .text entry.right),
      ("matching", .boolean entry.matching)]

def ofJson (json : Json) : Match :=
  ⟨json.textAt "rule", json.textAt "left", json.textAt "right", json.flagAt "matching"⟩

/-- A record of a match reads back. -/
theorem ofJson_toJson (entry : Match) : ofJson entry.toJson = entry :=
  rfl

end Match

namespace MatchTrace

/-- The comparisons of a run as a record. -/
def toJson (trace : MatchTrace) : Json :=
  .object [("matches", .array (trace.matches_.map Match.toJson))]

end MatchTrace

namespace Transformation

def toJson (entry : Transformation) : Json :=
  .object
    [("rule", .text entry.rule), ("source", .text entry.source),
      ("targets", .texts entry.targets)]

def ofJson (json : Json) : Transformation :=
  ⟨json.textAt "rule", json.textAt "source", json.textsAt "targets"⟩

/-- A record of a transformation reads back. -/
theorem ofJson_toJson (entry : Transformation) : ofJson entry.toJson = entry := by
  have targets : entry.toJson.textsAt "targets" = entry.targets := Json.textsAt_texts rfl
  cases entry
  simp only [ofJson, targets]
  rfl

end Transformation

namespace TransformationTrace

/-- The transformations of a run as a record. -/
def toJson (trace : TransformationTrace) : Json :=
  .object [("transformations", .array (trace.transformations.map Transformation.toJson))]

end TransformationTrace

namespace Merge

def toJson (entry : Merge) : Json :=
  .object
    [("rule", .text entry.rule), ("left", .text entry.left), ("right", .text entry.right),
      ("merged", .texts entry.merged)]

def ofJson (json : Json) : Merge :=
  ⟨json.textAt "rule", json.textAt "left", json.textAt "right", json.textsAt "merged"⟩

/-- A record of a merging reads back. -/
theorem ofJson_toJson (entry : Merge) : ofJson entry.toJson = entry := by
  have merged : entry.toJson.textsAt "merged" = entry.merged := Json.textsAt_texts rfl
  cases entry
  simp only [ofJson, merged]
  rfl

end Merge

namespace MergeTraces

/-- The comparisons and the mergings of a run as a record. -/
def toJson (traces : MergeTraces) : Json :=
  .object
    [("match_trace", traces.matchTrace.toJson),
      ("merge_trace",
        .object [("merges", .array (traces.mergeTrace.merges.map Merge.toJson))])]

end MergeTraces

namespace Constraint

/-- A check as a record. -/
def toJson (constraint : Constraint) : Json :=
  .object
    [("name", .text constraint.name), ("context", .text constraint.context),
      ("critique", .boolean constraint.critique)]

/-- The check of a record. -/
def ofJson (json : Json) : Constraint :=
  ⟨json.textAt "name", json.textAt "context", json.flagAt "critique"⟩

end Constraint

namespace ConstraintContext

/-- The checks of a type as a record. -/
def toJson (context : ConstraintContext) : Json :=
  .object
    [("name", .text context.name), ("type_name", .text context.typeName),
      ("constraints", .array (context.constraints.map Constraint.toJson))]

/-- The checks of a record. -/
def ofJson (json : Json) : ConstraintContext :=
  ⟨json.textAt "name", json.textAt "type_name",
    (json.itemsAt "constraints").map Constraint.ofJson⟩

end ConstraintContext

namespace Unsatisfied

/-- An unsatisfied check as a record. -/
def toJson (item : Unsatisfied) : Json :=
  .object
    [("constraint", item.constraint.toJson), ("instance", .text item.instance_),
      ("message", .text item.message)]

/-- The unsatisfied check of a record. -/
def ofJson (json : Json) : Unsatisfied :=
  ⟨.ofJson (json.member "constraint"), json.textAt "instance", json.textAt "message"⟩

/-- A record of an unsatisfied check reads back. -/
theorem ofJson_toJson (item : Unsatisfied) : ofJson item.toJson = item :=
  rfl

end Unsatisfied
end StagedScript
