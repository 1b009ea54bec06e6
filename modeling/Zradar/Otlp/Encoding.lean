import Zradar.Lib.ByteReader
import Zradar.Lib.Outcome

/-! The decompression of request bodies, which stops as soon as the output passes a limit. -/

namespace Zradar.Otlp

/-- The largest number of a machine word. -/
def usizeMax : Nat := 2 ^ 64 - 1

/-- Why a body was not read. -/
inductive ReadError (ε : Type) where
  | tooLarge
  | io (error : ε)

section

variable {ε : Type}

/-- A sum that does not leave the machine word. -/
def checkedAdd (first second : Nat) : Outcome (ReadError ε) Nat :=
  if first + second ≤ usizeMax then .ok (first + second) else .panicked

/-- A difference that is not negative. -/
def checkedSub (first second : Nat) : Outcome (ReadError ε) Nat :=
  if second ≤ first then .ok (first - second) else .panicked

/-- A number brought between two bounds, the first of which must not be the greater one. -/
def clamp (value low high : Nat) : Outcome (ReadError ε) Nat :=
  if low ≤ high then .ok (min (max value low) high) else .panicked

/-- The bytes by which a buffer grows at least. -/
def chunkSize : Nat := 64 * 1024

/-- Let a full buffer grow, up to the cap. -/
def grow (cap : Nat) (out : ByteBuffer) : Outcome (ReadError ε) ByteBuffer :=
  if out.length = out.capacity then
    if cap ≤ out.length then .err .tooLarge
    else do
      let room ← checkedSub cap out.length
      let grown := min (max out.capacity chunkSize) room
      -- The capacity that is asked for is computed in a machine word, too.
      let _ ← checkedAdd out.length grown
      pure (out.reserveExact grown)
  else pure out

/-- The place where the next bytes go, their number, and the buffer filled up for them. -/
def prepare (cap : Nat) (out : ByteBuffer) : Outcome (ReadError ε) (Nat × Nat × ByteBuffer) := do
  let out ← grow cap out
  let start := out.length
  let spare ← checkedSub out.capacity start
  let filled ← checkedAdd start spare
  let out := out.resize filled 0
  -- The slice behind the start, whose length is the room that the reader is given.
  let room ← checkedSub out.length start
  pure (start, room, out)

/-- How the reading of a body ended, and the capacities that were requested for it. -/
structure ReadResult (ε : Type) where
  outcome : Outcome (ReadError ε) Bytes
  requested : List Nat

/-- The loop of `read_capped`. -/
def readLoop (limit cap : Nat) (out : ByteBuffer) (reader : ByteReader ε) : ReadResult ε :=
  match prepare cap out with
  | .panicked => ⟨.panicked, out.requested⟩
  | .err error => ⟨.err error, out.requested⟩
  | .ok (start, room, out) =>
    match _answered : reader.read room with
    | (.failed error, _) => ⟨.err (.io error), out.requested⟩
    | (.interrupted, next) =>
      let out := out.truncate start
      if limit < out.length then ⟨.err .tooLarge, out.requested⟩
      else readLoop limit cap out next
    | (.bytes data, next) =>
      if _filled : data = [] then ⟨.ok (out.truncate start).bytes, out.requested⟩
      else
        let out := (out.write start data).truncate (start + data.length)
        if limit < out.length then ⟨.err .tooLarge, out.requested⟩
        else readLoop limit cap out next
  termination_by reader.size
  decreasing_by
    · exact (ByteReader.read_interrupted _answered).2.2
    · exact (ByteReader.read_bytes _answered).2.2.2 _filled

/-- Read all of a reader, unless more than a limit of bytes come out of it. -/
def readCapped (reader : ByteReader ε) (hint limit : UInt64) : ReadResult ε :=
  let cap := min (limit.toNat + 1) usizeMax
  match clamp (min (hint.toNat * 4) usizeMax) (min chunkSize cap) cap with
  | .ok capacity => readLoop limit.toNat cap (.withCapacity capacity) reader
  | .err error => ⟨.err error, []⟩
  | .panicked => ⟨.panicked, []⟩

/-- How reading a stream up to a cap is to end. -/
def streamOutcome (cap : Nat) (bytes : Bytes) (error : Option ε) : Outcome (ReadError ε) Bytes :=
  if bytes.length < cap then
    match error with
    | none => .ok bytes
    | some error => .err (.io error)
  else .err .tooLarge

end

section

variable {ε : Type} {limit cap : Nat} {out : ByteBuffer} {reader : ByteReader ε}

/-- A buffer that has reached the cap is full, and does not grow. -/
theorem prepare_full (bounded : out.capacity ≤ cap) (full : cap ≤ out.length) :
    prepare cap out = (.err .tooLarge : Outcome (ReadError ε) _) := by
  have fits : out.length ≤ out.capacity := out.fits
  have same : out.length = out.capacity := by omega
  rw [prepare, grow, if_pos same, if_pos full]
  rfl

/-- Below the cap a buffer has room, keeps its bytes, and has asked for no more than the cap. -/
theorem prepare_below (bounded : out.capacity ≤ cap) (word : cap ≤ usizeMax)
    (asked : ∀ capacity ∈ out.requested, capacity ≤ cap) (below : out.length < cap) :
    ∃ room filled, prepare cap out = (.ok (out.length, room, filled) : Outcome (ReadError ε) _) ∧
      0 < room ∧ filled.bytes = out.bytes ++ List.replicate room 0 ∧ filled.capacity ≤ cap ∧
      ∀ capacity ∈ filled.requested, capacity ≤ cap := by
  -- Growing leaves a buffer with room, within the cap.
  obtain ⟨grown, grows, bytes, room, high, requested⟩ : ∃ grown : ByteBuffer,
      grow cap out = (.ok grown : Outcome (ReadError ε) _) ∧ grown.bytes = out.bytes ∧
      out.length < grown.capacity ∧ grown.capacity ≤ cap ∧
      ∀ capacity ∈ grown.requested, capacity ≤ cap := by
    have fits : out.length ≤ out.capacity := out.fits
    by_cases full : out.length = out.capacity
    · have positive : 0 < min (max out.capacity chunkSize) (cap - out.length) := by
        unfold chunkSize
        omega
      refine ⟨out.reserveExact (min (max out.capacity chunkSize) (cap - out.length)), ?_, rfl, ?_,
        ?_, ?_⟩
      · rw [grow, if_pos full, if_neg (by omega), checkedSub, if_pos (by omega)]
        simp only [Outcome.ok_bind]
        rw [checkedAdd, if_pos (by omega)]
        rfl
      · simp only [ByteBuffer.reserveExact]
        omega
      · simp only [ByteBuffer.reserveExact]
        omega
      · intro capacity member
        simp only [ByteBuffer.reserveExact] at member
        split at member
        · exact asked capacity member
        · rcases List.mem_cons.mp member with rfl | earlier
          · omega
          · exact asked capacity earlier
    · refine ⟨out, ?_, rfl, by omega, bounded, asked⟩
      rw [grow, if_neg full]
      rfl
  have length : grown.length = out.length := by
    unfold ByteBuffer.length
    rw [bytes]
  have size : (grown.resize (out.length + (grown.capacity - out.length)) 0).bytes =
      out.bytes ++ List.replicate (grown.capacity - out.length) 0 := by
    simp only [ByteBuffer.resize, bytes]
    rw [List.take_of_length_le (by unfold ByteBuffer.length; omega)]
    unfold ByteBuffer.length
    rw [Nat.add_sub_cancel_left]
  have lengths : (grown.resize (out.length + (grown.capacity - out.length)) 0).length =
      out.length + (grown.capacity - out.length) := by
    rw [ByteBuffer.length, size, List.length_append, List.length_replicate]
    rfl
  refine ⟨grown.capacity - out.length,
    grown.resize (out.length + (grown.capacity - out.length)) 0, ?_, by omega, size, ?_, ?_⟩
  · rw [prepare, grows]
    simp only [Outcome.ok_bind, length]
    rw [checkedSub, if_pos (by omega)]
    simp only [Outcome.ok_bind]
    rw [checkedAdd, if_pos (by omega)]
    simp only [Outcome.ok_bind]
    rw [checkedSub, lengths, if_pos (by omega)]
    simp only [Outcome.ok_bind, Nat.add_sub_cancel_left]
    rfl
  · simp only [ByteBuffer.resize]
    omega
  · intro capacity member
    simp only [ByteBuffer.resize] at member
    rw [if_pos (by omega)] at member
    exact requested capacity member

/--
The loop keeps the stream together, as what was read and what is to be read, and asks for no
capacity over the cap.
-/
theorem readLoop_spec (bounded : out.capacity ≤ cap) (word : cap ≤ usizeMax)
    (limited : cap ≤ limit + 1) (inside : ¬ limit < out.length)
    (asked : ∀ capacity ∈ out.requested, capacity ≤ cap) :
    (readLoop limit cap out reader).outcome =
        streamOutcome cap (out.bytes ++ reader.bytes) reader.error ∧
      ∀ capacity ∈ (readLoop limit cap out reader).requested, capacity ≤ cap := by
  -- Every call of the reader leaves it with less to say.
  generalize measured : reader.size = size
  induction size using Nat.strongRecOn generalizing reader out with
  | ind size ih =>
    rw [readLoop]
    rcases Nat.lt_or_ge out.length cap with below | full
    · obtain ⟨room, filled, prepared, positive, bytes, high, requested⟩ :=
        @prepare_below ε cap out bounded word asked below
      rw [prepared]
      dsimp only
      have kept : filled.bytes.take out.length = out.bytes := by
        rw [bytes]
        exact List.take_left
      have inFront : List.length out.bytes < cap := below
      have cut : (filled.truncate out.length).bytes = out.bytes := kept
      split
      · -- The stream is over with an error.
        rename_i error next answered
        obtain ⟨rest, failed⟩ := ByteReader.read_failed answered
        refine ⟨?_, requested⟩
        rw [rest, failed, List.append_nil]
        unfold streamOutcome
        rw [if_pos inFront]
      · -- An interruption changes nothing but what the reader has to say.
        rename_i next answered
        obtain ⟨same, error, smaller⟩ := ByteReader.read_interrupted answered
        have still : ¬ limit < (filled.truncate out.length).length := by
          rw [ByteBuffer.length, cut]
          exact inside
        have rest :=
          @ih next.size (by omega) (filled.truncate out.length) next high still requested rfl
        rw [cut, same, error] at rest
        rw [if_neg still]
        exact rest
      · rename_i data next answered
        obtain ⟨short, stream, error, smaller⟩ := ByteReader.read_bytes answered
        split
        · -- The stream is over.
          rename_i nothing
          subst nothing
          obtain ⟨rest, clean⟩ := ByteReader.read_end positive answered
          refine ⟨?_, requested⟩
          rw [rest, clean, List.append_nil]
          unfold streamOutcome
          rw [if_pos inFront]
          exact congrArg Outcome.ok cut
        · rename_i some
          have written : ((filled.write out.length data).truncate
              (out.length + data.length)).bytes = out.bytes ++ data := by
            rw [ByteBuffer.write_truncate, kept]
            rw [bytes, List.length_append, List.length_replicate]
            exact Nat.add_le_add_left short _
          split
          · -- More than the limit is at least the cap.
            rename_i over_
            refine ⟨?_, requested⟩
            unfold streamOutcome
            rw [if_neg]
            rw [stream, List.length_append, List.length_append]
            rw [ByteBuffer.length, written, List.length_append] at over_
            omega
          · rename_i still
            have less := smaller some
            have rest := @ih next.size (by omega)
              ((filled.write out.length data).truncate (out.length + data.length)) next high still
              requested rfl
            rw [written, error, List.append_assoc, ← stream] at rest
            exact rest
    · -- The buffer is as long as the cap, so the stream is no shorter.
      rw [prepare_full bounded full]
      refine ⟨?_, asked⟩
      unfold streamOutcome
      rw [if_neg]
      rw [List.length_append]
      unfold ByteBuffer.length at full
      omega

end

section

variable {ε : Type} (reader : ByteReader ε) (hint limit : UInt64)

/-- Reading a body is reading its stream up to the limit and one byte, as far as there are words. -/
theorem readCapped_eq :
    (readCapped reader hint limit).outcome =
        streamOutcome (min (limit.toNat + 1) usizeMax) reader.bytes reader.error ∧
      ∀ capacity ∈ (readCapped reader hint limit).requested,
        capacity ≤ min (limit.toNat + 1) usizeMax := by
  -- The capacity is capped before the first read, and the loop keeps it under the cap.
  unfold readCapped
  dsimp only
  generalize cap_eq : min (limit.toNat + 1) usizeMax = cap
  rw [clamp, if_pos (min_le_right _ _)]
  have high : min (max (min (hint.toNat * 4) usizeMax) (min chunkSize cap)) cap ≤ cap :=
    min_le_right _ _
  generalize min (max (min (hint.toNat * 4) usizeMax) (min chunkSize cap)) cap = capacity at high
  have asked : ∀ requested ∈ (ByteBuffer.withCapacity capacity).requested, requested ≤ cap := by
    intro requested member
    rw [List.mem_singleton.mp member]
    exact high
  exact readLoop_spec high (by omega) (by omega) (Nat.not_lt_zero _) asked

/--
A body is read exactly if its stream ends cleanly within the limit and before the last number of a
machine word; it is too large only otherwise. No buffer is larger than the limit and one byte, and
nothing panics.
-/
theorem readCapped_exact :
    (∀ bytes, (readCapped reader hint limit).outcome = .ok bytes ↔
        reader.error = none ∧ reader.bytes.length ≤ limit.toNat ∧
          reader.bytes.length < 2 ^ 64 - 1 ∧ bytes = reader.bytes) ∧
      ((readCapped reader hint limit).outcome = .err .tooLarge →
        limit.toNat < reader.bytes.length ∨ 2 ^ 64 - 1 ≤ reader.bytes.length) ∧
      (∀ capacity ∈ (readCapped reader hint limit).requested, capacity ≤ limit.toNat + 1) ∧
      (readCapped reader hint limit).outcome ≠ .panicked := by
  -- The cap is one byte above the limit, so a stream that fills it is too large.
  obtain ⟨outcome, requested⟩ := readCapped_eq reader hint limit
  have capacities : ∀ capacity ∈ (readCapped reader hint limit).requested,
      capacity ≤ limit.toNat + 1 :=
    fun capacity member => (requested capacity member).trans (min_le_left _ _)
  rw [outcome]
  unfold streamOutcome usizeMax
  by_cases fits : reader.bytes.length < min (limit.toNat + 1) (2 ^ 64 - 1)
  · rw [if_pos fits]
    cases error : reader.error with
    | none =>
      refine ⟨fun bytes => ?_, fun large => (nomatch large), capacities, fun panic => nomatch panic⟩
      constructor
      · intro same
        exact ⟨rfl, by omega, by omega, (Outcome.ok.inj same).symm⟩
      · rintro ⟨-, -, -, rfl⟩
        rfl
    | some error =>
      refine ⟨fun bytes => ?_, fun large => (nomatch large), capacities, fun panic => nomatch panic⟩
      constructor
      · intro same
        cases same
      · rintro ⟨clean, -, -, -⟩
        cases clean
  · rw [if_neg fits]
    refine ⟨fun bytes => ?_, fun _ => by omega, capacities, fun panic => nomatch panic⟩
    constructor
    · intro same
      cases same
    · rintro ⟨-, limited, small, -⟩
      omega

end

/-- A reader with so many zeros, in one piece behind the first. -/
def zeros (count : Nat) : ByteReader Empty := ⟨[.data 0 (List.replicate count 0)], none⟩

theorem length_zeros (count : Nat) : (zeros count).bytes.length = count + 1 := by
  simp [zeros, ByteReader.bytes, ReadEvent.bytes]

/-- A stream of as many bytes as the last number of a machine word, which is its limit, too. -/
theorem longest_stream_too_large :
    ∃ reader : ByteReader Empty, reader.error = none ∧
      reader.bytes.length ≤ (18446744073709551615 : UInt64).toNat ∧
      (readCapped reader 0 18446744073709551615).outcome = .err .tooLarge := by
  have limit : (18446744073709551615 : UInt64).toNat = 18446744073709551615 := rfl
  obtain ⟨count, large⟩ : ∃ count, count = 18446744073709551614 := ⟨_, rfl⟩
  have length := length_zeros count
  refine ⟨zeros count, rfl, by omega, ?_⟩
  rw [(readCapped_eq _ 0 18446744073709551615).1]
  unfold streamOutcome usizeMax
  rw [if_neg]
  omega

end Zradar.Otlp
