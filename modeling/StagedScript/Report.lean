import StagedScript.Log
import StagedScript.Trace

/-!
# Reports of unsatisfied checks

Constraints are reported before critiques, each group in the order of the input. The bordered
report has a section per group that is not empty, with a row per item; names are padded to the
longest one of both groups, so that all messages start in one column.

**Results.** Every row starts with as many characters before its message (`length_rowLead`).
-/

namespace StagedScript
namespace Report

def constraintMarker : Char :=
  '\u16D6'

def critiqueMarker : Char :=
  '\u16B9'

def constraintsTitle : String :=
  "Unsatisfied Constraints"

def critiquesTitle : String :=
  "Unsatisfied Critiques"

def allSatisfied : String :=
  "All constraints have been satisfied"

def constraints (items : List Unsatisfied) : List Unsatisfied :=
  items.filter fun item => !item.isCritique

def critiques (items : List Unsatisfied) : List Unsatisfied :=
  items.filter Unsatisfied.isCritique

/-- How many items there are, in words. -/
def countMessage (count : Nat) : String :=
  if count = 1 then
    "There was 1 unsatisfied Constraint."
  else
    "There were " ++ toString count ++ " unsatisfied Constraints."

/-- The log record of an item: a warning for a critique, an error for a constraint. -/
def logRecord (item : Unsatisfied) : LogRecord :=
  ⟨if item.isCritique then .warn else .error, item.message⟩

def logAll (items : List Unsatisfied) : Logged Unit :=
  if items.isEmpty then
    ⟨(), [⟨.info, allSatisfied ++ "."⟩]⟩
  else
    ⟨(), ⟨.warn, countMessage items.length⟩ :: items.map logRecord⟩

/-- The rule above and below a title. -/
def rule (title : String) : String :=
  String.ofList (List.replicate title.length '=')

/-- A title between rules. -/
def banner (title : String) : List String :=
  [rule title, title, rule title]

def width (items : List Unsatisfied) : Nat :=
  items.foldl (fun longest item => max longest item.name.length) 0

/-- A text with blanks after it up to a length. -/
def padded (width : Nat) (text : String) : String :=
  text ++ String.ofList (List.replicate (width - text.length) ' ')

/-- What stands before the message in the row of an item. -/
def rowLead (marker : Char) (width : Nat) (item : Unsatisfied) : String :=
  String.singleton marker ++ " " ++ padded width item.name ++ " "

def row (marker : Char) (width : Nat) (item : Unsatisfied) : String :=
  rowLead marker width item ++ item.message

/-- The lines of a group; none for an empty one. -/
def section_ (title : String) (marker : Char) (width : Nat) (items : List Unsatisfied) :
    List String :=
  if items.isEmpty then
    []
  else
    [""] ++ banner title ++ items.map (row marker width) ++ [rule title]

def lines (items : List Unsatisfied) : List String :=
  if items.isEmpty then
    [""] ++ banner allSatisfied
  else
    let width := width items
    section_ constraintsTitle constraintMarker width (constraints items) ++
      section_ critiquesTitle critiqueMarker width (critiques items)

def render (items : List Unsatisfied) : String :=
  String.join ((lines items).map fun line => line ++ "\n")

/-- A padded text is at least as long as it is to be, and exactly so if it was not longer. -/
theorem length_padded {width : Nat} {text : String} (fits : text.length ≤ width) :
    (padded width text).length = width := by
  simp [padded]
  omega

/-- Every row starts with as many characters before its message. -/
theorem length_rowLead {width : Nat} {item : Unsatisfied} (marker : Char)
    (fits : item.name.length ≤ width) :
    (rowLead marker width item).length = width + 3 := by
  have blank : " ".length = 1 := rfl
  rw [rowLead, String.length_append, String.length_append, String.length_append,
    length_padded fits, blank, String.length_singleton]
  omega

end Report
end StagedScript
