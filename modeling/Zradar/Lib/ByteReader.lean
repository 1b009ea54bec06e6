import Zradar.Lib.BigEndian

/-! Readers that hand out their bytes piece by piece, and buffers with a capacity to read into. -/

namespace Zradar

/-- What a reader has for one call: some bytes, at least one, or an interruption. -/
inductive ReadEvent where
  | data (first : UInt8) (rest : Bytes)
  | interrupted

/-- A reader that ends in a clean end of its stream or in an error. -/
structure ByteReader (ε : Type) where
  events : List ReadEvent
  error : Option ε

/-- The answer of a reader to one call, where no bytes say that the stream is at its end. -/
inductive ReadAnswer (ε : Type) where
  | bytes (data : Bytes)
  | interrupted
  | failed (error : ε)

def ReadEvent.bytes : ReadEvent → Bytes
  | .data first rest => first :: rest
  | .interrupted => []

namespace ByteReader

variable {ε : Type}

/-- The stream of a reader. -/
def bytes (reader : ByteReader ε) : Bytes := reader.events.flatMap ReadEvent.bytes

/-- How much a reader has to say at most. -/
def size (reader : ByteReader ε) : Nat := reader.events.length + reader.bytes.length

/-- Read as many bytes of the next piece as there is room for. -/
def read (reader : ByteReader ε) (room : Nat) : ReadAnswer ε × ByteReader ε :=
  match reader.events with
  | [] =>
    match reader.error with
    | none => (.bytes [], reader)
    | some error => (.failed error, reader)
  | .interrupted :: events => (.interrupted, { reader with events })
  | .data first rest :: events =>
    match room with
    -- A buffer without room gets no bytes.
    | 0 => (.bytes [], reader)
    | room + 1 =>
      match rest.drop room with
      | [] => (.bytes (first :: rest), { reader with events })
      | next :: later =>
        (.bytes (first :: rest.take room), { reader with events := .data next later :: events })

variable {reader next : ByteReader ε} {room : Nat}

/-- What the answer to a call says about the stream, and what is left of it. -/
inductive Answers (reader : ByteReader ε) (room : Nat) : ReadAnswer ε × ByteReader ε → Prop where
  | ended (nothing : reader.bytes = []) (clean : reader.error = none) :
    Answers reader room (.bytes [], reader)
  | failed (error : ε) (nothing : reader.bytes = []) (given : reader.error = some error) :
    Answers reader room (.failed error, reader)
  | interrupted (next : ByteReader ε) (same : next.bytes = reader.bytes)
      (error : next.error = reader.error) (smaller : next.size < reader.size) :
    Answers reader room (.interrupted, next)
  /-- A buffer without room says nothing about the stream. -/
  | full (none : room = 0) : Answers reader room (.bytes [], reader)
  | read (data : Bytes) (next : ByteReader ε) (filled : data ≠ []) (short : data.length ≤ room)
      (stream : reader.bytes = data ++ next.bytes) (error : next.error = reader.error)
      (smaller : next.size < reader.size) : Answers reader room (.bytes data, next)

theorem answers_read (reader : ByteReader ε) (room : Nat) :
    Answers reader room (reader.read room) := by
  unfold read
  split
  · rename_i found
    have nothing : reader.bytes = [] := by simp [bytes, found]
    split
    · rename_i clean
      exact .ended nothing clean
    · rename_i error given
      exact .failed error nothing given
  · rename_i events found
    refine .interrupted _ ?_ rfl ?_ <;> simp [bytes, size, found, ReadEvent.bytes]
  · rename_i first rest events found
    split
    · exact .full rfl
    · rename_i room
      split
      · -- The piece fits as a whole.
        rename_i fits
        have short : rest.length ≤ room := List.drop_eq_nil_iff.mp fits
        refine .read _ _ (List.cons_ne_nil first rest) (by simp [short])
          (by simp [bytes, found, ReadEvent.bytes]) rfl ?_
        simp only [size, bytes, found, List.flatMap_cons, ReadEvent.bytes, List.length_append,
          List.length_cons]
        omega
      · -- The rest of the piece is kept for the next call.
        rename_i head later rest_eq
        have whole : rest = rest.take room ++ head :: later := by
          rw [← rest_eq, List.take_append_drop]
        refine .read _ _ (List.cons_ne_nil first _) (by simp) ?_ rfl ?_
        · simp only [bytes, found, List.flatMap_cons, ReadEvent.bytes]
          nth_rewrite 1 [whole]
          simp
        · have lengths := congrArg List.length whole
          rw [List.length_append] at lengths
          simp only [size, bytes, found, List.flatMap_cons, ReadEvent.bytes, List.length_append,
            List.length_cons] at lengths ⊢
          omega

/-- An interruption leaves the stream as it is, and is over. -/
theorem read_interrupted (answered : reader.read room = (.interrupted, next)) :
    next.bytes = reader.bytes ∧ next.error = reader.error ∧ next.size < reader.size := by
  have answers := answers_read reader room
  rw [answered] at answers
  cases answers with
  | interrupted next same error smaller => exact ⟨same, error, smaller⟩

/-- A reader fails only behind its stream. -/
theorem read_failed {error : ε} (answered : reader.read room = (.failed error, next)) :
    reader.bytes = [] ∧ reader.error = some error := by
  have answers := answers_read reader room
  rw [answered] at answers
  cases answers with
  | failed error nothing given => exact ⟨nothing, given⟩

/-- With room in the buffer, only a clean end has no bytes. -/
theorem read_end (positive : 0 < room) (answered : reader.read room = (.bytes [], next)) :
    reader.bytes = [] ∧ reader.error = none := by
  have answers := answers_read reader room
  rw [answered] at answers
  cases answers with
  | ended nothing clean => exact ⟨nothing, clean⟩
  | full none => exact absurd none positive.ne'
  | read data next filled short stream error smaller => exact absurd rfl filled

/-- What is read is the front of the stream, and no more than there is room for. -/
theorem read_bytes {data : Bytes} (answered : reader.read room = (.bytes data, next)) :
    data.length ≤ room ∧ reader.bytes = data ++ next.bytes ∧ next.error = reader.error ∧
      (data ≠ [] → next.size < reader.size) := by
  have answers := answers_read reader room
  rw [answered] at answers
  cases answers with
  | ended nothing clean => exact ⟨Nat.zero_le _, rfl, rfl, fun filled => absurd rfl filled⟩
  | full none => exact ⟨Nat.zero_le _, rfl, rfl, fun filled => absurd rfl filled⟩
  | read data next filled short stream error smaller =>
    exact ⟨short, stream, error, fun _ => smaller⟩

end ByteReader

/-- A buffer, with the capacities that were requested for it. -/
structure ByteBuffer where
  bytes : Bytes
  capacity : Nat
  requested : List Nat
  fits : bytes.length ≤ capacity

namespace ByteBuffer

/-- An empty buffer of the given capacity. -/
def withCapacity (capacity : Nat) : ByteBuffer := ⟨[], capacity, [capacity], Nat.zero_le _⟩

variable (buffer : ByteBuffer)

def length : Nat := buffer.bytes.length

/-- Make room for exactly so many more bytes, if there is not enough. -/
def reserveExact (additional : Nat) : ByteBuffer where
  bytes := buffer.bytes
  capacity := max buffer.capacity (buffer.length + additional)
  requested :=
    if additional ≤ buffer.capacity - buffer.length then buffer.requested
    else (buffer.length + additional) :: buffer.requested
  fits := le_trans buffer.fits (le_max_left _ _)

/-- Cut a buffer off, or fill it up with a byte. -/
def resize (length : Nat) (fill : UInt8) : ByteBuffer where
  bytes := buffer.bytes.take length ++ List.replicate (length - buffer.bytes.length) fill
  capacity := max buffer.capacity length
  requested := if length ≤ buffer.capacity then buffer.requested else length :: buffer.requested
  fits := by
    have whole := buffer.fits
    simp only [List.length_append, List.length_take, List.length_replicate]
    omega

/-- Cut a buffer off. -/
def truncate (length : Nat) : ByteBuffer where
  bytes := buffer.bytes.take length
  capacity := buffer.capacity
  requested := buffer.requested
  fits := le_trans (List.length_take_le' _ _) buffer.fits

/-- Overwrite what stands behind a position, as far as the new bytes reach. -/
def write (start : Nat) (data : Bytes) : ByteBuffer where
  bytes := buffer.bytes.take start ++
    (data ++ buffer.bytes.drop (start + data.length)).take (buffer.bytes.length - start)
  capacity := buffer.capacity
  requested := buffer.requested
  fits := by
    have whole := buffer.fits
    simp only [List.length_append, List.length_take]
    omega

/-- What is written and cut off behind it stands behind the bytes that were there. -/
theorem write_truncate {start : Nat} {data : Bytes}
    (inside : start + data.length ≤ buffer.bytes.length) :
    ((buffer.write start data).truncate (start + data.length)).bytes =
      buffer.bytes.take start ++ data := by
  -- The write reaches no further than the cut, so the cut takes all of it and no more.
  have front : (buffer.bytes.take start).length = start := by
    rw [List.length_take]
    omega
  have room : (data ++ buffer.bytes.drop (start + data.length)).take
      (buffer.bytes.length - start) =
        data ++ (buffer.bytes.drop (start + data.length)).take
          (buffer.bytes.length - start - data.length) := by
    rw [List.take_append, List.take_of_length_le (by omega)]
  simp only [truncate, write, room]
  rw [← List.append_assoc]
  apply List.take_left'
  rw [List.length_append, front]

end ByteBuffer

end Zradar
