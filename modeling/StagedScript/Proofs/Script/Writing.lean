import StagedScript.Proofs.Script.Printing

/-!
# Writing to sinks

A sink may be written to in several ways that come to the same: all at once, a front first and then
the others, or as much as fits and then again what is left. A line is its text and a line feed.

**Results.** To write bytes is to write a front of them and, if that was taken, the others
(`Sink.write_append`), and to offer them until none are left or none are taken
(`Sink.write_eq_offer`). To write a line is to write its text and, if that was taken, the line feed
(`Stream.writeLine_eq`).
-/

namespace StagedScript

namespace Sink

theorem extract_append_front (first second : ByteArray) (n : Nat) :
    (first ++ second).extract 0 (first.size + n) = first ++ second.extract 0 n := by
  have whole : first.extract 0 (first.size + n) = first := by
    have cut := @extract_eq_of_min_eq first (first.size + n) first.size (by omega)
    rwa [ByteArray.extract_zero_size] at cut
  rw [ByteArray.extract_append, whole, Nat.zero_sub, Nat.add_sub_cancel_left]

theorem write_unlimited {sink : Sink} (unlimited : sink.capacity = none) (bytes : ByteArray) :
    sink.write bytes = (.ok (), { sink with received := sink.received ++ bytes }) := by
  have all : sink.fitting bytes.size = bytes.size := by
    rw [fitting, unlimited]
  rw [write, if_pos all]

theorem fst_write (sink : Sink) (bytes : ByteArray) :
    (sink.write bytes).1 =
      if sink.fitting bytes.size = bytes.size then .ok () else .error .sinkFull := by
  unfold write
  dsimp only
  split <;> rfl

theorem fitting_le (sink : Sink) (size : Nat) : sink.fitting size ≤ size := by
  unfold fitting
  split
  · exact Nat.le_refl size
  · exact Nat.min_le_left size _

/-- If some bytes do not fit, then no more of them fit when others come after them. -/
theorem fitting_add {sink : Sink} {size : Nat} (short : sink.fitting size ≠ size) (more : Nat) :
    sink.fitting (size + more) = sink.fitting size := by
  obtain ⟨received, none | capacity⟩ := sink
  · exact absurd rfl short
  · simp only [fitting] at short ⊢
    omega

/-- To write bytes is to write a front of them and then, if that was taken, the others. -/
theorem write_append (sink : Sink) (first second : ByteArray) :
    sink.write (first ++ second) =
      match sink.write first with
      | (.ok (), after) => after.write second
      | (.error cause, after) => (.error cause, after) := by
  by_cases taken : sink.fitting first.size = first.size
  · have both := write_write sink first second
    have front : sink.write first =
        (.ok (), { sink with received := sink.received ++ first }) := by
      rw [write, if_pos taken]
    rw [front] at both ⊢
    refine Prod.ext ?_ both.symm
    rw [fst_write, fst_write, ByteArray.size_append]
    refine if_congr ?_ rfl rfl
    obtain ⟨received, none | capacity⟩ := sink
    · simp [fitting]
    · simp only [fitting, ByteArray.size_append] at taken ⊢
      omega
  · have same := fitting_add taken second.size
    have within := sink.fitting_le first.size
    have beyond : sink.fitting first.size ≠ (first ++ second).size := by
      rw [ByteArray.size_append]
      omega
    have none : second.extract 0 (sink.fitting first.size - first.size) = ByteArray.empty := by
      rw [ByteArray.extract_eq_empty_iff]
      omega
    rw [← ByteArray.size_append] at same
    rw [write, write, same, if_neg beyond, if_neg taken, ByteArray.extract_append, Nat.zero_sub,
      none, ByteArray.append_empty]

/-- Take of some bytes those that fit. It is an error to take none of some. -/
def offer (sink : Sink) (bytes : ByteArray) : Except IoError Nat × Sink :=
  let size := sink.fitting bytes.size
  if size = 0 then
    (.error .sinkFull, sink)
  else
    (.ok size, { sink with received := sink.received ++ bytes.extract 0 size })

/-- To write bytes is to offer them, and then those that were not taken, until none are left. -/
theorem write_eq_offer (sink : Sink) {bytes : ByteArray} (some : bytes.size ≠ 0) :
    sink.write bytes =
      match sink.offer bytes with
      | (.ok taken, after) => after.write (bytes.extract taken bytes.size)
      | (.error cause, after) => (.error cause, after) := by
  by_cases full : sink.fitting bytes.size = 0
  · have none : bytes.extract 0 0 = ByteArray.empty := by
      rw [ByteArray.extract_eq_empty_iff]
      omega
    rw [offer, write, full, if_pos rfl, if_neg some.symm, none, ByteArray.append_empty]
  · have within := sink.fitting_le bytes.size
    have parts : bytes = bytes.extract 0 (sink.fitting bytes.size) ++
        bytes.extract (sink.fitting bytes.size) bytes.size := by
      rw [ByteArray.extract_append_extract, Nat.zero_min, Nat.max_eq_right within,
        ByteArray.extract_zero_size]
    have fits : sink.fitting (bytes.extract 0 (sink.fitting bytes.size)).size =
        (bytes.extract 0 (sink.fitting bytes.size)).size := by
      rw [ByteArray.size_extract]
      obtain ⟨received, none | capacity⟩ := sink
      · rfl
      · simp only [fitting]
        omega
    have whole := sink.write_append (bytes.extract 0 (sink.fitting bytes.size))
      (bytes.extract (sink.fitting bytes.size) bytes.size)
    rw [← parts] at whole
    rw [whole, write, if_pos fits, offer, if_neg full]

end Sink

namespace Sinks

/-- The sinks with another one under a number that is in use. -/
def put (sinks : Sinks) (id : SinkId) (sink : Sink) : Sinks :=
  ⟨sinks.all.set id sink⟩

theorem get_put_self {sinks : Sinks} {id : SinkId} (inUse : id < sinks.all.length) (sink : Sink) :
    (sinks.put id sink).get id = sink := by
  simp [put, get, inUse]

theorem get_put_of_ne (sinks : Sinks) {id other : SinkId} (sink : Sink) (different : id ≠ other) :
    (sinks.put id sink).get other = sinks.get other := by
  simp [put, get, different]

theorem put_put (sinks : Sinks) (id : SinkId) (first second : Sink) :
    (sinks.put id first).put id second = sinks.put id second := by
  simp [put]

theorem put_comm (sinks : Sinks) {id other : SinkId} (first second : Sink)
    (different : id ≠ other) :
    (sinks.put id first).put other second = (sinks.put other second).put id first := by
  simp [put, List.set_comm _ _ different]

theorem put_of_unused {sinks : Sinks} {id : SinkId} (unused : sinks.all.length ≤ id) (sink : Sink) :
    sinks.put id sink = sinks := by
  simp [put, List.set_eq_of_length_le unused]

theorem write_eq_put (sinks : Sinks) (id : SinkId) (bytes : ByteArray) :
    sinks.write id bytes =
      (((sinks.get id).write bytes).1, sinks.put id ((sinks.get id).write bytes).2) :=
  rfl

theorem get_of_unused {sinks : Sinks} {id : SinkId} (unused : sinks.all.length ≤ id) :
    sinks.get id = Sink.new none := by
  rw [get, List.getD_eq_getElem?_getD, List.getElem?_eq_none unused]
  rfl

/-- A sink that is not there takes everything and keeps nothing. -/
theorem write_of_unused {sinks : Sinks} {id : SinkId} (unused : sinks.all.length ≤ id)
    (bytes : ByteArray) : sinks.write id bytes = (.ok (), sinks) := by
  have unlimited : (sinks.get id).capacity = none := by
    rw [get_of_unused unused]
    rfl
  rw [write_eq_put, put_of_unused unused, Sink.write_unlimited unlimited]

theorem write_append (sinks : Sinks) (id : SinkId) (first second : ByteArray) :
    sinks.write id (first ++ second) =
      match sinks.write id first with
      | (.ok (), after) => after.write id second
      | (.error cause, after) => (.error cause, after) := by
  by_cases inUse : id < sinks.all.length
  · rw [write_eq_put, write_eq_put, Sink.write_append]
    rcases (sinks.get id).write first with ⟨cause | taken, sink⟩
    · rfl
    · dsimp only
      rw [write_eq_put, get_put_self inUse, put_put]
  · have unused := Nat.le_of_not_lt inUse
    rw [write_of_unused unused, write_of_unused unused]
    dsimp only
    rw [write_of_unused unused]

end Sinks

/-- To write a line is to write its text and then, if that was taken, the line feed. -/
theorem Stream.writeLine_eq (stream : Stream) (text : String) (sinks : Sinks) :
    stream.writeLine text sinks =
      match stream.writeText text sinks with
      | (.ok (), after) => stream.writeText "\n" after
      | (.error cause, after) => (.error cause, after) := by
  have bytes : (text ++ "\n").toUTF8 = text.toUTF8 ++ "\n".toUTF8 := String.toByteArray_append
  rw [writeLine, writeText, bytes]
  exact sinks.write_append stream.sink _ _

end StagedScript
