import StagedScript.Proofs.Script.Confinement

/-!
# Printing to sinks

A transcript is a list of texts, each with the channel that it is printed to. Channels lead to
sinks, and several may lead to the same one.

**Results.** A sink receives the texts of a transcript whose channels lead there, in their order, as
if they were one text (`Sinks.get_print`): the text of a channel, if no other channel leads there
(`Sinks.received_print`). Other sinks are left alone (`Sinks.get_print_of_ne`).
-/

namespace StagedScript

/-- What is printed: texts, each with its channel. -/
abbrev Transcript :=
  List (Channel × String)

/-- The text that a transcript has for a channel. -/
def Transcript.on (transcript : Transcript) (channel : Channel) : String :=
  String.join ((transcript.filter fun entry => entry.1 = channel).map Prod.snd)

/-- The text that a transcript has for a sink. -/
def Transcript.into (streams : Channel → Stream) (id : SinkId) (transcript : Transcript) : String :=
  String.join ((transcript.filter fun entry => (streams entry.1).sink = id).map Prod.snd)

theorem Transcript.into_cons (streams : Channel → Stream) (id : SinkId) (channel : Channel)
    (text : String) (rest : Transcript) :
    Transcript.into streams id ((channel, text) :: rest) =
      if (streams channel).sink = id then text ++ rest.into streams id
      else rest.into streams id := by
  by_cases here : (streams channel).sink = id <;> simp [Transcript.into, here]

namespace Sink

/-- A front of bytes depends on its length only as far as there are bytes. -/
theorem extract_eq_of_min_eq {bytes : ByteArray} {n m : Nat}
    (same : min n bytes.size = min m bytes.size) : bytes.extract 0 n = bytes.extract 0 m := by
  have whole (k : Nat) : bytes.extract 0 k = bytes.extract 0 (min k bytes.size) := by
    have cut := @ByteArray.extract_extract bytes 0 bytes.size 0 k
    rwa [ByteArray.extract_zero_size, Nat.zero_add, Nat.zero_add] at cut
  rw [whole n, whole m, same]

theorem snd_write (sink : Sink) (bytes : ByteArray) :
    (sink.write bytes).2 =
      { sink with received := sink.received ++ bytes.extract 0 (sink.fitting bytes.size) } := by
  have kept : (sink.write bytes).2.capacity = sink.capacity := by
    unfold write
    dsimp only
    split <;> rfl
  rw [← received_write, ← kept]

theorem write_empty (sink : Sink) : (sink.write ByteArray.empty).2 = sink := by
  have nothing (n : Nat) : ByteArray.empty.extract 0 n = ByteArray.empty :=
    ByteArray.extract_eq_empty_iff.2 (Nat.min_le_right n _)
  rw [snd_write, nothing, ByteArray.append_empty]

/-- Bytes that are written one after the other are received as if they were written at once. -/
theorem write_write (sink : Sink) (first second : ByteArray) :
    ((sink.write first).2.write second).2 = (sink.write (first ++ second)).2 := by
  have firstFits : first.extract 0 (sink.fitting first.size) =
      first.extract 0 (sink.fitting (first ++ second).size) := by
    refine extract_eq_of_min_eq ?_
    rw [ByteArray.size_append]
    unfold fitting
    split <;> omega
  have secondFits : second.extract 0 ((sink.write first).2.fitting second.size) =
      second.extract 0 (sink.fitting (first ++ second).size - first.size) := by
    refine extract_eq_of_min_eq ?_
    rw [snd_write, ByteArray.size_append]
    obtain ⟨received, none | capacity⟩ := sink
    · simp only [fitting]
      omega
    · simp only [fitting, ByteArray.size_append, ByteArray.size_extract]
      omega
  rw [snd_write, secondFits, snd_write, snd_write, firstFits, ByteArray.append_assoc,
    ByteArray.extract_append, Nat.zero_sub]

end Sink

namespace Sinks

/-- Write the texts of a transcript to the streams of their channels. -/
def print (sinks : Sinks) (streams : Channel → Stream) : Transcript → Sinks
  | [] => sinks
  | (channel, text) :: rest => ((streams channel).writeText text sinks).2.print streams rest

theorem print_append (streams : Channel → Stream) (first second : Transcript) :
    ∀ sinks : Sinks,
      sinks.print streams (first ++ second) = (sinks.print streams first).print streams second := by
  induction first with
  | nil => exact fun sinks => rfl
  | cons entry rest ih => exact fun sinks => ih _

/-- The sinks behind some streams take whatever is written. -/
def Unlimited (sinks : Sinks) (streams : Channel → Stream) : Prop :=
  ∀ channel, (sinks.get (streams channel).sink).capacity = none

theorem capacity_get (sinks : Sinks) (id : SinkId) :
    (sinks.get id).capacity = sinks.capacities.getD id none := by
  unfold get capacities
  rw [List.getD_eq_getElem?_getD, List.getD_eq_getElem?_getD, List.getElem?_map]
  cases sinks.all[id]? <;> rfl

theorem Unlimited.of_capacities {sinks after : Sinks} {streams : Channel → Stream}
    (unlimited : sinks.Unlimited streams) (same : after.capacities = sinks.capacities) :
    after.Unlimited streams := by
  intro channel
  rw [capacity_get, same, ← capacity_get]
  exact unlimited channel

theorem capacities_print (streams : Channel → Stream) (transcript : Transcript) :
    ∀ sinks : Sinks, (sinks.print streams transcript).capacities = sinks.capacities := by
  induction transcript with
  | nil => exact fun sinks => rfl
  | cons entry rest ih => exact fun sinks => (ih _).trans (capacities_write _ _ _)

theorem writeText_ok {sinks : Sinks} {streams : Channel → Stream}
    (unlimited : sinks.Unlimited streams) (channel : Channel) (text : String) :
    ((streams channel).writeText text sinks).1 = .ok () := by
  refine (Sink.write_ok_iff _ _).2 ?_
  unfold Sink.fitting
  rw [unlimited channel]

theorem length_all_write (sinks : Sinks) (id : SinkId) (bytes : ByteArray) :
    (sinks.write id bytes).2.all.length = sinks.all.length :=
  List.length_set

theorem get_write_self {sinks : Sinks} {id : SinkId} (inUse : id < sinks.all.length)
    (bytes : ByteArray) :
    (sinks.write id bytes).2.get id = ((sinks.get id).write bytes).2 := by
  simp [write, get, inUse]

/-- A sink receives what a transcript has for it as if it were written at once. -/
theorem get_print (streams : Channel → Stream) (transcript : Transcript) {id : SinkId} :
    ∀ {sinks : Sinks}, id < sinks.all.length →
      (sinks.print streams transcript).get id =
        ((sinks.get id).write (transcript.into streams id).toUTF8).2 := by
  induction transcript with
  | nil => exact fun _ => (Sink.write_empty _).symm
  | cons entry rest ih =>
      obtain ⟨channel, text⟩ := entry
      intro sinks inUse
      have later := @ih ((streams channel).writeText text sinks).2
        (by rwa [Stream.writeText, length_all_write])
      rw [print, later, Transcript.into_cons, Stream.writeText]
      by_cases here : (streams channel).sink = id
      · rw [if_pos here, here, get_write_self inUse, Sink.write_write]
        exact congrArg (fun bytes => ((sinks.get id).write bytes).2) String.toByteArray_append.symm
      · rw [if_neg here, get_write_of_ne sinks _ here]

/-- A sink that no channel leads to is left alone. -/
theorem get_print_of_ne {streams : Channel → Stream} {id : SinkId}
    (elsewhere : ∀ channel, (streams channel).sink ≠ id) (transcript : Transcript) :
    ∀ sinks : Sinks, (sinks.print streams transcript).get id = sinks.get id := by
  induction transcript with
  | nil => exact fun _ => rfl
  | cons entry rest ih =>
      intro sinks
      rw [print, ih]
      exact get_write_of_ne sinks _ (elsewhere entry.1)

/-- The sink of a channel that no other channel leads to receives the text of the channel. -/
theorem received_print {streams : Channel → Stream} {channel : Channel}
    (alone : ∀ other, (streams other).sink = (streams channel).sink → other = channel)
    (transcript : Transcript) {sinks : Sinks} (unlimited : sinks.Unlimited streams)
    (inUse : (streams channel).sink < sinks.all.length) :
    ((sinks.print streams transcript).get (streams channel).sink).received =
      (sinks.get (streams channel).sink).received ++ (transcript.on channel).toUTF8 := by
  have same : transcript.into streams (streams channel).sink = transcript.on channel := by
    unfold Transcript.into Transcript.on
    congr 3
    funext entry
    exact decide_eq_decide.2 ⟨alone entry.1, fun here => by rw [here]⟩
  rw [get_print streams transcript inUse, same, Sink.received_write, Sink.fitting,
    unlimited channel]
  exact congrArg _ ByteArray.extract_zero_size

end Sinks

end StagedScript
