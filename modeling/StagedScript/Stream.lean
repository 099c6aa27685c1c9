import StagedScript.Files.Error

/-!
# Streams and sinks

A sink receives bytes, as many as it has room for. A stream is a name for a sink: streams that
share a sink write to the same place. The sinks of a run live in one store and are told apart by
their number there.

**Results.** A write appends a front of its bytes, the whole of them exactly if it succeeds
(`Sink.received_write`, `Sink.write_ok_iff`), and leaves every other sink alone
(`Sinks.get_write_of_ne`).
-/

namespace StagedScript

/-- What a sink has received, and how many bytes it takes in total, if that is limited. -/
structure Sink where
  received : ByteArray
  capacity : Option Nat

namespace Sink

/-- A sink that has received nothing. -/
def new (capacity : Option Nat) : Sink :=
  ⟨ByteArray.empty, capacity⟩

/-- How many of the given number of bytes still fit. -/
def fitting (sink : Sink) (size : Nat) : Nat :=
  match sink.capacity with
  | none => size
  | some capacity => min size (capacity - sink.received.size)

/-- Write bytes: those that fit are kept, and it is an error if not all do. -/
def write (sink : Sink) (bytes : ByteArray) : Except IoError Unit × Sink :=
  let size := sink.fitting bytes.size
  if size = bytes.size then
    (.ok (), { sink with received := sink.received ++ bytes })
  else
    (.error .sinkFull, { sink with received := sink.received ++ bytes.extract 0 size })

theorem received_write (sink : Sink) (bytes : ByteArray) :
    (sink.write bytes).2.received =
      sink.received ++ bytes.extract 0 (sink.fitting bytes.size) := by
  unfold write
  dsimp only
  split
  · rename_i h
    simp [h]
  · rfl

/-- A write succeeds exactly if all of its bytes fit. -/
theorem write_ok_iff (sink : Sink) (bytes : ByteArray) :
    (sink.write bytes).1 = .ok () ↔ sink.fitting bytes.size = bytes.size := by
  unfold write
  dsimp only
  split <;> simp_all

end Sink

abbrev SinkId :=
  Nat

/-- The sinks of a run by their number. -/
structure Sinks where
  all : List Sink

namespace Sinks

/-- The standard output, sink 0, and the standard error, sink 1. -/
def standard : Sinks :=
  ⟨[Sink.new none, Sink.new none]⟩

/-- A sink; a number that is not in use names one that has received nothing. -/
def get (sinks : Sinks) (id : SinkId) : Sink :=
  sinks.all.getD id (Sink.new none)

def add (sinks : Sinks) (capacity : Option Nat) : SinkId × Sinks :=
  (sinks.all.length, ⟨sinks.all ++ [Sink.new capacity]⟩)

def write (sinks : Sinks) (id : SinkId) (bytes : ByteArray) : Except IoError Unit × Sinks :=
  let (result, sink) := (sinks.get id).write bytes
  (result, ⟨sinks.all.set id sink⟩)

/-- A write to one sink leaves the others alone. -/
theorem get_write_of_ne (sinks : Sinks) {id other : SinkId} (bytes : ByteArray)
    (different : id ≠ other) :
    (sinks.write id bytes).2.get other = sinks.get other := by
  simp [write, get, different]

end Sinks

/-- What kind of sink a stream was made for. -/
inductive StreamLabel where
  | stdout
  | stderr
  | buffer
  | custom
deriving DecidableEq, Repr

namespace StreamLabel

def name : StreamLabel → String
  | .stdout => "stdout"
  | .stderr => "stderr"
  | .buffer => "buffer"
  | .custom => "custom"

end StreamLabel

/-- A place to write text to. -/
structure Stream where
  sink : SinkId
  label : StreamLabel
deriving DecidableEq, Repr

namespace Stream

/-- The stream to the standard output. -/
def stdout : Stream :=
  ⟨0, .stdout⟩

/-- The stream to the standard error. -/
def stderr : Stream :=
  ⟨1, .stderr⟩

/-- Whether two streams write to one sink. -/
def sameSink (stream other : Stream) : Bool :=
  stream.sink = other.sink

def writeText (stream : Stream) (text : String) (sinks : Sinks) : Except IoError Unit × Sinks :=
  sinks.write stream.sink text.toUTF8

def writeLine (stream : Stream) (text : String) (sinks : Sinks) : Except IoError Unit × Sinks :=
  stream.writeText (text ++ "\n") sinks

def render (stream : Stream) : String :=
  "Stream \x7b label: \"" ++ stream.label.name ++ "\" \x7d"

end Stream

/-- The three uses that a program makes of streams. -/
inductive Channel where
  | output
  | warning
  | error
deriving DecidableEq, Repr

end StagedScript
