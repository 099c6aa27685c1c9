import StagedScript.Files.Tree

/-!
# Files that were written

Writing a file puts it at the place that its path names, where no directory stands. No directory
comes or goes, so that every path names the place that it named before; the file is read back from
its path, and files at other places are as they were.

**Results.** A write finds the places of paths as they were (`FileTree.locate_write`). What was
written is read back (`FileTree.readBytes_write`, `FileTree.readText_of_readBytes`), and a file at
another place is read as before (`FileTree.readBytes_write_of_apart`).
-/

namespace StagedScript
namespace FileTree

variable {tree after : FileTree} {place : List String} {content : ByteArray} {path : String}

theorem bind_eq_ok_iff {α β : Type} {first : Except IoError α} {next : α → Except IoError β}
    {b : β} : first >>= next = .ok b ↔ ∃ a, first = .ok a ∧ next a = .ok b := by
  cases first with
  | error cause => exact ⟨nofun, nofun⟩
  | ok a => exact ⟨fun came => ⟨a, rfl, came⟩, fun ⟨_, same, came⟩ => by cases same; exact came⟩

theorem lookup_filter_self (place : List String) (entries : List (List String × FileEntry)) :
    List.lookup place (entries.filter fun held => held.1 ≠ place) = none := by
  rw [List.lookup_eq_none_iff]
  intro held mem
  have different : held.1 ≠ place := of_decide_eq_true (List.mem_filter.1 mem).2
  exact bne_iff_ne.2 different.symm

theorem lookup_filter_of_ne {other : List String} (different : other ≠ place)
    (entries : List (List String × FileEntry)) :
    List.lookup other (entries.filter fun held => held.1 ≠ place) = List.lookup other entries := by
  induction entries with
  | nil => rfl
  | cons held rest ih =>
      obtain ⟨key, entry⟩ := held
      by_cases here : key = place
      · subst here
        rw [List.filter_cons_of_neg (by simp), ih, List.lookup_cons,
          beq_false_of_ne different]
      · rw [List.filter_cons_of_pos (by simpa using here), List.lookup_cons, List.lookup_cons, ih]

theorem entry?_set_of_ne {other : List String} (different : other ≠ place) (tree : FileTree)
    (entry : FileEntry) : FileTree.entry? (tree.set place entry) other = tree.entry? other := by
  unfold entry? set
  dsimp only
  rw [List.lookup_append, lookup_filter_of_ne different, List.lookup_cons,
    beq_false_of_ne different, List.lookup_nil, Option.or_none]

theorem entry?_set_self (below : isAbove place = false) (tree : FileTree) (entry : FileEntry) :
    FileTree.entry? (tree.set place entry) place = some entry := by
  unfold entry? set
  dsimp only
  rw [below, if_neg Bool.false_ne_true, List.lookup_append, lookup_filter_self,
    List.lookup_cons_self, Option.none_or]

/-- A write puts a file at the place of its path, and not on a directory. -/
theorem exists_of_write (written : tree.write path content = .ok after) :
    ∃ place, tree.locate path = .ok place ∧ tree.entry? place ≠ some .directory ∧
      after = tree.set place (.file content) := by
  obtain ⟨place, found, put⟩ := bind_eq_ok_iff.1 written
  refine ⟨place, found, ?_⟩
  split at put
  next => cases put
  next content held =>
    cases put
    exact ⟨by simp [held], rfl⟩
  next free =>
    split at put
    next => cases put
    next =>
      split at put
      next =>
        cases put
        exact ⟨by simp [free], rfl⟩
      next => cases put
      next => cases put

theorem isAbove_eq_false (noDirectory : tree.entry? place ≠ some .directory) :
    isAbove place = false := by
  rw [Bool.eq_false_iff]
  intro above
  exact noDirectory (if_pos above)

/-- Pieces of paths are taken from directories alone, and these are as before. -/
theorem step_set_iff (noDirectory : tree.entry? place ≠ some .directory) (start : List String)
    (piece : String) (goal : List String) :
    (tree.set place (.file content)).step start piece = .ok goal ↔
      tree.step start piece = .ok goal := by
  unfold step
  by_cases here : start = place
  · subst here
    rw [entry?_set_self (isAbove_eq_false noDirectory)]
    cases found : tree.entry? start with
    | none => simp
    | some entry =>
        cases entry with
        | file _ => simp
        | directory => exact absurd found noDirectory
  · rw [entry?_set_of_ne here]

theorem walk_set_iff (noDirectory : tree.entry? place ≠ some .directory) (pieces : List String) :
    ∀ start goal : List String,
      pieces.foldlM (tree.set place (.file content)).step start = .ok goal ↔
        pieces.foldlM tree.step start = .ok goal := by
  induction pieces with
  | nil => exact fun start goal => .rfl
  | cons piece rest ih =>
      intro start goal
      rw [List.foldlM_cons, List.foldlM_cons, bind_eq_ok_iff, bind_eq_ok_iff]
      simp only [step_set_iff noDirectory, ih]

/-- A write finds the places of paths as they were. -/
theorem locate_write (written : tree.write path content = .ok after) (other : String)
    (goal : List String) : after.locate other = .ok goal ↔ tree.locate other = .ok goal := by
  obtain ⟨place, -, noDirectory, rfl⟩ := exists_of_write written
  unfold locate
  split
  · exact .rfl
  · split
    · exact .rfl
    · split
      · exact .rfl
      · exact walk_set_iff noDirectory _ _ _

theorem readBytes_of_entry (found : tree.locate path = .ok place)
    (file : tree.entry? place = some (.file content)) : tree.readBytes path = .ok content := by
  have there : tree.find path = .ok (.file content) :=
    bind_eq_ok_iff.2 ⟨place, found, by rw [file]⟩
  exact bind_eq_ok_iff.2 ⟨_, there, rfl⟩

/-- What was written is read back. -/
theorem readBytes_write (written : tree.write path content = .ok after) :
    after.readBytes path = .ok content := by
  obtain ⟨place, found, noDirectory, rfl⟩ := exists_of_write written
  exact readBytes_of_entry ((locate_write written path place).2 found)
    (entry?_set_self (isAbove_eq_false noDirectory) tree _)

theorem exists_entry_of_readBytes (read : tree.readBytes path = .ok content) :
    ∃ place, tree.locate path = .ok place ∧ tree.entry? place = some (.file content) := by
  obtain ⟨entry, there, isFile⟩ := bind_eq_ok_iff.1 read
  obtain ⟨place, found, held⟩ := bind_eq_ok_iff.1 there
  refine ⟨place, found, ?_⟩
  split at held
  next entry standing =>
    cases held
    cases entry with
    | directory => cases isFile
    | file bytes =>
        cases isFile
        exact standing
  next => cases held

/-- Two paths do not name one place. -/
def Apart (tree : FileTree) (path other : String) : Prop :=
  ∀ place, tree.locate path = .ok place → tree.locate other ≠ .ok place

theorem Apart.write {first second : String} (apart : tree.Apart first second)
    (written : tree.write path content = .ok after) : after.Apart first second := by
  intro place found foundOther
  exact apart place ((locate_write written first place).1 found)
    ((locate_write written second place).1 foundOther)

/-- A write leaves the files at other places alone. -/
theorem readBytes_write_of_apart {other : String} {bytes : ByteArray}
    (written : tree.write path content = .ok after) (apart : tree.Apart path other)
    (read : tree.readBytes other = .ok bytes) : after.readBytes other = .ok bytes := by
  obtain ⟨place, found, -, rfl⟩ := exists_of_write written
  obtain ⟨there, foundOther, file⟩ := exists_entry_of_readBytes read
  have different : there ≠ place := by
    rintro rfl
    exact apart there found foundOther
  refine readBytes_of_entry ((locate_write written other there).2 foundOther) ?_
  rw [entry?_set_of_ne different]
  exact file

/-- The bytes of a text are read as the text. -/
theorem readText_of_readBytes {text : String} (read : tree.readBytes path = .ok text.toUTF8) :
    tree.readText path = .ok text := by
  have decoded : String.fromUTF8? text.toUTF8 = some text := dif_pos text.isValidUTF8
  exact bind_eq_ok_iff.2 ⟨_, read, by rw [decoded]⟩

end FileTree
end StagedScript
