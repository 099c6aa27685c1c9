import Mathlib.Data.List.Forall2
import Mathlib.Data.List.Perm.Basic
import StagedScript.Report
import StagedScript.Text.Utf8

/-!
# The lines of a report

A report is a text of lines that each end in a line feed. `IsGroup` says which lines stand for a
group of items, and `IsRow` which one stands for an item; both are about the characters of the
lines and know nothing of how these are written.

**Results.** A report of items without line breaks consists of the lines of its constraints and of
its critiques, all in the width of the longest name, and shows every item in one row
(`Report.isReport_render`).
-/

namespace StagedScript

/-! ## Texts of ended lines -/

namespace Text

/-- The text in which every one of the lines is ended by a line feed. -/
def ended (lines : List String) : String :=
  String.join (lines.map fun line => line ++ "\n")

theorem toList_ended_cons (line : String) (lines : List String) :
    (ended (line :: lines)).toList = line.toList ++ '\n' :: (ended lines).toList := by
  simp [ended]

/-- A text of ended lines is cut into these lines at its line feeds; nothing stands behind the last
one. -/
theorem splitOn_ended {lines : List String} (unbroken : ∀ line ∈ lines, '\n' ∉ line.toList) :
    (ended lines).toList.splitOn '\n' = lines.map String.toList ++ [[]] := by
  induction lines with
  | nil => simp [ended]
  | cons line rest ih =>
      obtain ⟨here, behind⟩ := List.forall_mem_cons.1 unbroken
      rw [toList_ended_cons, List.splitOn_append_cons_self_of_not_mem here, ih behind,
        List.map_cons, List.cons_append]

/-- The lines of a text of ended lines, none of which would lose a carriage return. -/
theorem lines_ended {lines : List String} (unbroken : ∀ line ∈ lines, '\n' ∉ line.toList)
    (untrimmed : ∀ line ∈ lines, line.toList.getLast? ≠ some '\r') :
    Text.lines (ended lines) = lines := by
  have kept (line : String) (member : line ∈ lines) :
      String.ofList (if line.toList.getLast? = some '\r' then line.toList.dropLast
        else line.toList) = line := by
    rw [if_neg (untrimmed line member), String.ofList_toList]
  simp only [Text.lines, splitOn_ended unbroken, List.getLast?_concat, List.dropLast_concat,
    List.map_map]
  exact (List.map_congr_left kept).trans (List.map_id lines)

end Text

namespace Report

/-! ## Rows -/

/-- A row shows an item: the marker, a blank, the name with blanks up to the width, a blank and the
message. -/
def IsRow (marker : Char) (width : Nat) (item : Unsatisfied) (row : String) : Prop :=
  ∃ blanks, item.name.length + blanks = width ∧
    row.toList = marker :: ' ' :: item.name.toList ++ List.replicate blanks ' ' ++
      ' ' :: item.message.toList

theorem isRow_row {width : Nat} {item : Unsatisfied} (marker : Char)
    (fits : item.name.length ≤ width) : IsRow marker width item (row marker width item) := by
  refine ⟨width - item.name.length, Nat.add_sub_cancel' fits, ?_⟩
  simp [row, rowLead, padded]

namespace IsRow

variable {marker : Char} {width : Nat} {item : Unsatisfied} {row : String}

/-- The message starts in the column after the marker, the name and the blanks around it. -/
theorem drop_lead (shown : IsRow marker width item row) :
    row.toList.drop (width + 3) = item.message.toList := by
  obtain ⟨blanks, rfl, text⟩ := shown
  have lead : (marker :: ' ' :: item.name.toList ++ List.replicate blanks ' ' ++ [' ']).length =
      item.name.length + blanks + 3 := by
    simp [Nat.add_assoc, String.length_toList]
  rw [text, List.append_cons, List.drop_left' lead]

/-- What is in a row is in its item, the marker and blanks apart. -/
theorem mem_toList (shown : IsRow marker width item row) {char : Char}
    (member : char ∈ row.toList) :
    char = marker ∨ char = ' ' ∨ char ∈ item.name.toList ∨ char ∈ item.message.toList := by
  obtain ⟨blanks, -, text⟩ := shown
  rw [text] at member
  simp only [List.mem_append, List.mem_cons, List.mem_replicate] at member
  tauto

/-- A row ends as its message does, or in a blank. -/
theorem getLast?_toList (shown : IsRow marker width item row) :
    row.toList.getLast? = (' ' :: item.message.toList).getLast? := by
  obtain ⟨blanks, -, text⟩ := shown
  rw [text, List.getLast?_append_of_ne_nil _ (List.cons_ne_nil _ _)]

/-- Every row of a group shows one of its items. -/
theorem exists_item {items : List Unsatisfied} {rows : List String}
    (shown : List.Forall₂ (IsRow marker width) items rows) (member : row ∈ rows) :
    ∃ item ∈ items, IsRow marker width item row := by
  induction shown with
  | nil => exact absurd member List.not_mem_nil
  | @cons first _ rest _ here _ ih =>
      rcases List.mem_cons.1 member with rfl | behind
      · exact ⟨first, List.mem_cons_self, here⟩
      · obtain ⟨item, inRest, isRow⟩ := ih behind
        exact ⟨item, List.mem_cons_of_mem first inRest, isRow⟩

end IsRow

/-! ## Groups -/

/-- The rows of a group of items and its lines: none for an empty group, else an empty line, the
title between borders of its length, the rows and the border again. -/
inductive IsGroup (title : String) (marker : Char) (width : Nat) :
    List Unsatisfied → List String → List String → Prop
  | empty : IsGroup title marker width [] [] []
  | bordered {items : List Unsatisfied} {rows : List String} {border : String}
      (inhabited : items ≠ []) (long : border.toList = List.replicate title.length '=')
      (shown : List.Forall₂ (IsRow marker width) items rows) :
      IsGroup title marker width items rows
        ("" :: border :: title :: border :: rows ++ [border])

theorem isGroup_section {width : Nat} {items : List Unsatisfied} (title : String) (marker : Char)
    (fits : ∀ item ∈ items, item.name.length ≤ width) :
    IsGroup title marker width items (items.map (row marker width))
      (section_ title marker width items) := by
  cases items with
  | nil => exact .empty
  | cons first rest =>
      have border : (rule title).toList = List.replicate title.length '=' :=
        String.toList_ofList
      exact .bordered (List.cons_ne_nil first rest) border (List.forall₂_map_right_iff.2
        (List.forall₂_same.2 fun item member => isRow_row marker (fits item member)))

namespace IsGroup

variable {title : String} {marker : Char} {width : Nat} {items : List Unsatisfied}
  {rows lines : List String}

theorem rows_shown (group : IsGroup title marker width items rows lines) :
    List.Forall₂ (IsRow marker width) items rows := by
  cases group with
  | empty => exact .nil
  | bordered _ _ shown => exact shown

/-- A line of a group is empty, the title, the border or the row of an item. -/
theorem line_cases (group : IsGroup title marker width items rows lines) {line : String}
    (member : line ∈ lines) :
    line = "" ∨ line = title ∨ line.toList = List.replicate title.length '=' ∨
      ∃ item ∈ items, IsRow marker width item line := by
  cases group with
  | empty => exact absurd member List.not_mem_nil
  | bordered _ long shown =>
      simp only [List.cons_append, List.mem_cons, List.mem_append, List.not_mem_nil,
        or_false] at member
      obtain rfl | rfl | rfl | rfl | inRows | rfl := member
      · exact .inl rfl
      · exact .inr (.inr (.inl long))
      · exact .inr (.inl rfl)
      · exact .inr (.inr (.inl long))
      · obtain ⟨item, inItems, isRow⟩ := IsRow.exists_item shown inRows
        exact .inr (.inr (.inr ⟨item, inItems, isRow⟩))
      · exact .inr (.inr (.inl long))

/-- The lines of a group hold no line break if neither the title and the marker nor the names and
messages of its items do. -/
theorem unbroken (group : IsGroup title marker width items rows lines)
    (plainTitle : '\n' ∉ title.toList) (plainMarker : '\n' ≠ marker)
    (plain : ∀ item ∈ items, '\n' ∉ item.name.toList ∧ '\n' ∉ item.message.toList) :
    ∀ line ∈ lines, '\n' ∉ line.toList := by
  intro line inLines broken
  obtain rfl | rfl | border | ⟨item, member, isRow⟩ := group.line_cases inLines
  · simp at broken
  · exact plainTitle broken
  · rw [border] at broken
    exact absurd (List.eq_of_mem_replicate broken) (by decide)
  · obtain marked | blank | inName | inMessage := isRow.mem_toList broken
    · exact plainMarker marked
    · exact absurd blank (by decide)
    · exact (plain item member).1 inName
    · exact (plain item member).2 inMessage

/-- The lines of a group do not end in a carriage return if neither its title nor the messages of
its items do. -/
theorem untrimmed (group : IsGroup title marker width items rows lines)
    (plainTitle : title.toList.getLast? ≠ some '\r')
    (plain : ∀ item ∈ items, item.message.toList.getLast? ≠ some '\r') :
    ∀ line ∈ lines, line.toList.getLast? ≠ some '\r' := by
  intro line inLines trimmed
  obtain rfl | rfl | border | ⟨item, member, isRow⟩ := group.line_cases inLines
  · simp at trimmed
  · exact plainTitle trimmed
  · rw [border] at trimmed
    exact absurd (List.eq_of_mem_replicate (List.mem_of_getLast? trimmed)) (by decide)
  · rw [isRow.getLast?_toList] at trimmed
    cases ended : item.message.toList with
    | nil => simp [ended] at trimmed
    | cons char rest =>
        rw [ended, List.getLast?_cons_cons, ← ended] at trimmed
        exact plain item member trimmed

end IsGroup

/-! ## The report -/

theorem perm_groups (items : List Unsatisfied) :
    (constraints items ++ critiques items).Perm items :=
  List.perm_append_comm.trans (List.filter_append_perm Unsatisfied.isCritique items)

/-- The longest name of the items has the given length. -/
structure IsWidth (items : List Unsatisfied) (width : Nat) : Prop where
  fits : ∀ item ∈ items, item.name.length ≤ width
  attained : ∃ item ∈ items, item.name.length = width

theorem width_eq_foldl (items : List Unsatisfied) :
    width items = (items.map fun item => item.name.length).foldl max 0 :=
  List.foldl_map.symm

theorem isWidth_width {items : List Unsatisfied} (inhabited : items ≠ []) :
    IsWidth items (width items) := by
  have longest : (items.map fun item => item.name.length).max? ≠ none := by
    simpa [List.max?_eq_none_iff] using inhabited
  obtain ⟨greatest, isMax⟩ := Option.ne_none_iff_exists'.1 longest
  have isWidth : width items = greatest := by
    rw [width_eq_foldl, List.foldl_max, isMax]
    exact Nat.max_eq_right (Nat.zero_le _)
  obtain ⟨held, bound⟩ := List.max?_eq_some_iff.1 isMax
  rw [isWidth]
  constructor
  · intro item member
    exact bound _ (List.mem_map_of_mem member)
  · exact List.mem_map.1 held

/-- A text reports items. Its lines, each ended by a line feed, are those of the constraints and
then those of the critiques, each group in the order of the items; all rows have the width of the
longest name, so that all messages start in one column, and every item has one row. -/
def IsReport (items : List Unsatisfied) (text : String) : Prop :=
  ∃ (width : Nat) (upperRows upper lowerRows lower : List String),
    IsWidth items width ∧
      IsGroup "Unsatisfied Constraints" '\u16D6' width
        (items.filter fun item => !item.isCritique) upperRows upper ∧
      IsGroup "Unsatisfied Critiques" '\u16B9' width
        (items.filter fun item => item.isCritique) lowerRows lower ∧
      text.toList.splitOn '\n' = (upper ++ lower).map String.toList ++ [[]] ∧
      ((∀ item ∈ items, item.message.toList.getLast? ≠ some '\r') →
        Text.lines text = upper ++ lower) ∧
      ∃ shown : List Unsatisfied, shown.Perm items ∧
        List.Forall₂ (fun item row => row.toList.drop (width + 3) = item.message.toList)
          shown (upperRows ++ lowerRows)

/-- What is rendered of items whose names and messages hold no line break is their report. -/
theorem isReport_render {items : List Unsatisfied} (inhabited : items ≠ [])
    (plain : ∀ item ∈ items, '\n' ∉ item.name.toList ∧ '\n' ∉ item.message.toList) :
    IsReport items (render items) := by
  have isWidth := isWidth_width inhabited
  have inUpper {item : Unsatisfied} (member : item ∈ constraints items) : item ∈ items :=
    (List.mem_filter.1 member).1
  have inLower {item : Unsatisfied} (member : item ∈ critiques items) : item ∈ items :=
    (List.mem_filter.1 member).1
  have upper := isGroup_section constraintsTitle constraintMarker
    fun item member => isWidth.fits item (inUpper member)
  have lower := isGroup_section critiquesTitle critiqueMarker
    fun item member => isWidth.fits item (inLower member)
  have text : render items = Text.ended (section_ constraintsTitle constraintMarker (width items)
      (constraints items) ++ section_ critiquesTitle critiqueMarker (width items)
      (critiques items)) := by
    rw [render, lines, if_neg (by simpa using inhabited)]
    rfl
  have unbroken := List.forall_mem_append.2
    ⟨upper.unbroken (by decide) (by decide) fun item member => plain item (inUpper member),
      lower.unbroken (by decide) (by decide) fun item member => plain item (inLower member)⟩
  refine ⟨width items, _, _, _, _, isWidth, upper, lower, ?_, ?_,
    constraints items ++ critiques items, perm_groups items, ?_⟩
  · rw [text, Text.splitOn_ended unbroken]
  · intro unreturned
    rw [text, Text.lines_ended unbroken]
    exact List.forall_mem_append.2
      ⟨upper.untrimmed (by decide) fun item member => unreturned item (inUpper member),
        lower.untrimmed (by decide) fun item member => unreturned item (inLower member)⟩
  · exact List.rel_append (upper.rows_shown.imp fun _ _ => IsRow.drop_lead)
      (lower.rows_shown.imp fun _ _ => IsRow.drop_lead)

/-- A critique, then a constraint with a shorter name. -/
def mixed : List Unsatisfied :=
  [⟨⟨"HasDocumentation", "Class", true⟩, "Person", "Person is undocumented"⟩,
    ⟨⟨"NameNotEmpty", "Class", false⟩, "Anon", "Class has no name"⟩]

theorem isReport_render_mixed : IsReport mixed (render mixed) :=
  isReport_render (by decide) (by decide)

example : lines [⟨⟨"NameNotEmpty", "Class", false⟩, "Anon", "Class has no name"⟩] =
    ["", "=======================", "Unsatisfied Constraints", "=======================",
      "\u16D6 NameNotEmpty Class has no name", "======================="] := by
  decide

end Report
end StagedScript
