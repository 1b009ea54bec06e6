import Zradar.Lib.Outcome

/-! Streams of length-delimited frames: scanning, truncation and torn tails. -/

namespace Zradar

variable {α β ε : Type}

/-- How a scan over a stream of frames came to its end. -/
inductive ScanEnd (ε : Type) where
  /-- The stream ended on a frame boundary. -/
  | eof
  /-- The decoder rejected what follows the last frame. -/
  | failed (error : ε)
  /-- The decoder panicked on what follows the last frame. -/
  | panicked
  deriving DecidableEq, Repr

/-- The frames a scan yielded, the position behind the last of them, and why it stopped. -/
structure Scan (β ε : Type) where
  items : List β
  pos : Nat
  ending : ScanEnd ε
  deriving DecidableEq, Repr

/-- A scan with one more frame in front. -/
def Scan.cons (item : β) (scan : Scan β ε) : Scan β ε :=
  { scan with items := item :: scan.items }

/-- Decode frame after frame until the stream ends or the decoder stops. -/
def scanFrames (decode : Nat → List α → Outcome ε (β × Nat)) :
    Nat → Nat → List α → Scan β ε
  -- The fuel never falls below the remaining length, so running out of it means the end is reached.
  | 0, pos, _ => ⟨[], pos, .eof⟩
  | _ + 1, pos, [] => ⟨[], pos, .eof⟩
  | fuel + 1, pos, head :: rest =>
    match decode pos (head :: rest) with
    | .ok (item, used) =>
      (scanFrames decode fuel (pos + used) ((head :: rest).drop used)).cons item
    | .err error => ⟨[], pos, .failed error⟩
    | .panicked => ⟨[], pos, .panicked⟩

/-- The scan of a whole stream, whose length bounds the number of frames in it. -/
def scanAll (decode : Nat → List α → Outcome ε (β × Nat)) (pos : Nat) (stream : List α) :
    Scan β ε :=
  scanFrames decode stream.length pos stream

/-- Every frame takes up space, so a decoder that succeeds moves forward. -/
def Advances (decode : Nat → List α → Outcome ε (β × Nat)) : Prop :=
  ∀ pos stream item used, decode pos stream = .ok (item, used) → 0 < used

/-- Any fuel that covers the remaining stream gives the same scan. -/
theorem scanFrames_fuel {decode : Nat → List α → Outcome ε (β × Nat)} (advances : Advances decode) :
    ∀ fuel more pos stream, stream.length ≤ fuel → stream.length ≤ more →
      scanFrames decode fuel pos stream = scanFrames decode more pos stream := by
  -- Each decoded frame shortens the stream, so both fuels stay sufficient.
  intro fuel
  induction fuel with
  | zero =>
    intro more pos stream covered _
    have empty : stream = [] := List.eq_nil_of_length_eq_zero (by omega)
    subst empty
    cases more <;> rfl
  | succ fuel ih =>
    intro more pos stream covered enough
    cases stream with
    | nil => cases more <;> rfl
    | cons head rest =>
      cases more with
      | zero => simp at enough
      | succ more =>
        simp only [scanFrames]
        cases decoded : decode pos (head :: rest) with
        | err error => rfl
        | panicked => rfl
        | ok result =>
          obtain ⟨item, used⟩ := result
          have forward := advances _ _ _ _ decoded
          simp only [List.length_cons] at covered enough
          have shorter : ((head :: rest).drop used).length ≤ fuel ∧
              ((head :: rest).drop used).length ≤ more := by
            simp only [List.length_drop, List.length_cons]
            omega
          exact congrArg (Scan.cons item) (ih more _ _ shorter.1 shorter.2)

/-- An empty stream ends at once. -/
@[simp] theorem scanAll_nil (decode : Nat → List α → Outcome ε (β × Nat)) (pos : Nat) :
    scanAll decode pos [] = ⟨[], pos, .eof⟩ := rfl

/-- A decoded frame is yielded first, and the scan goes on behind it. -/
theorem scanAll_ok {decode : Nat → List α → Outcome ε (β × Nat)} (advances : Advances decode)
    {pos : Nat} {stream : List α} (some : stream ≠ []) {item : β} {used : Nat}
    (decoded : decode pos stream = .ok (item, used)) :
    scanAll decode pos stream = (scanAll decode (pos + used) (stream.drop used)).cons item := by
  cases stream with
  | nil => contradiction
  | cons head rest =>
    have forward := advances _ _ _ _ decoded
    -- One unit of fuel is spent on this frame, and what is left covers the rest.
    simp only [scanAll, List.length_cons, scanFrames, decoded]
    rw [scanFrames_fuel advances rest.length ((head :: rest).drop used).length]
    · simp only [List.length_drop, List.length_cons]
      omega
    · exact Nat.le_refl _

/-- A rejected frame ends the scan where it starts. -/
theorem scanAll_err {decode : Nat → List α → Outcome ε (β × Nat)} {pos : Nat} {stream : List α}
    (some : stream ≠ []) {error : ε} (decoded : decode pos stream = .err error) :
    scanAll decode pos stream = ⟨[], pos, .failed error⟩ := by
  cases stream with
  | nil => contradiction
  | cons head rest => simp [scanAll, scanFrames, decoded]

/-- A panic of the decoder ends the scan where the frame starts. -/
theorem scanAll_panicked {decode : Nat → List α → Outcome ε (β × Nat)} {pos : Nat}
    {stream : List α} (some : stream ≠ []) (decoded : decode pos stream = .panicked) :
    scanAll decode pos stream = ⟨[], pos, .panicked⟩ := by
  cases stream with
  | nil => contradiction
  | cons head rest => simp [scanAll, scanFrames, decoded]

/-- What a scan read in front of its end are the encodings of the items that it yields. -/
theorem scanAll_canonical {decode : Nat → List α → Outcome ε (β × Nat)} {encode : β → List α}
    {Fits : β → Prop} (advances : Advances decode)
    (canonical : ∀ pos stream item used, decode pos stream = .ok (item, used) →
      Fits item ∧ stream.take used = encode item) (pos : Nat) (stream : List α) :
    (∀ item ∈ (scanAll decode pos stream).items, Fits item) ∧
      ∃ length, (scanAll decode pos stream).pos = pos + length ∧
        stream.take length = (scanAll decode pos stream).items.flatMap encode := by
  -- The induction is on the length of the stream, which every frame shortens.
  induction bound : stream.length using Nat.strongRecOn generalizing pos stream with
  | ind remaining ih =>
    by_cases empty : stream = []
    · subst empty
      exact ⟨by simp, 0, by simp⟩
    · cases decoded : decode pos stream with
      | err error =>
        rw [scanAll_err empty decoded]
        exact ⟨by simp, 0, by simp⟩
      | panicked =>
        rw [scanAll_panicked empty decoded]
        exact ⟨by simp, 0, by simp⟩
      | ok result =>
        obtain ⟨item, used⟩ := result
        have forward := advances _ _ _ _ decoded
        obtain ⟨fit, read⟩ := canonical _ _ _ _ decoded
        have positive : 0 < stream.length := List.length_pos_iff.mpr empty
        rw [scanAll_ok advances empty decoded]
        obtain ⟨fits, length, last, rest⟩ := ih (stream.drop used).length
          (by rw [List.length_drop]; omega) (pos + used) (stream.drop used) rfl
        refine ⟨?_, used + length, ?_, ?_⟩
        · intro other member
          rcases List.mem_cons.mp member with here | later
          · exact here ▸ fit
          · exact fits other later
        · rw [← Nat.add_assoc]
          exact last
        · rw [List.take_add, read, rest]
          rfl

/-- A proper, possibly empty, leading part of a frame. -/
def TornPart (part whole : List α) : Prop :=
  part <+: whole ∧ part.length < whole.length

/-- A shorter leading part of a frame is torn as well. -/
theorem TornPart.take {part whole : List α} (torn : TornPart part whole) (n : Nat) :
    TornPart (part.take n) whole := by
  -- A prefix of a part that is too short is a part that is too short.
  refine ⟨(List.take_prefix n part).trans torn.1, ?_⟩
  have shorter := torn.2
  simp only [List.length_take]
  omega

/-- What a decoder owes the encoder it belongs to. -/
structure FrameCodec (encode : β → List α) (decode : Nat → List α → Outcome ε (β × Nat))
    (Fits : β → Prop) (Torn : ε → Prop) : Prop where
  /-- A decoded frame is never empty. -/
  advances : Advances decode
  /-- A whole frame decodes to its item, whatever follows it. -/
  whole : ∀ item, Fits item → ∀ pos rest,
    decode pos (encode item ++ rest) = .ok (item, (encode item).length)
  /-- A frame cut short is reported as torn. -/
  torn : ∀ item, Fits item → ∀ pos part, TornPart part (encode item) → part ≠ [] →
    ∃ error, Torn error ∧ decode pos part = .err error

/-- The frames of a list of items, one behind the other. -/
def encodeAll (encode : β → List α) (items : List β) : List α :=
  items.flatMap encode

@[simp] theorem encodeAll_nil (encode : β → List α) : encodeAll encode [] = [] := rfl

@[simp] theorem encodeAll_cons (encode : β → List α) (item : β) (items : List β) :
    encodeAll encode (item :: items) = encode item ++ encodeAll encode items := by
  simp [encodeAll]

@[simp] theorem encodeAll_append (encode : β → List α) (front back : List β) :
    encodeAll encode (front ++ back) = encodeAll encode front ++ encodeAll encode back := by
  simp [encodeAll]

/-- The items whose frames lie wholly within a budget of leading bytes. -/
def wholeWithin (encode : β → List α) : Nat → List β → List β
  | _, [] => []
  | budget, item :: rest =>
    if (encode item).length ≤ budget then
      item :: wholeWithin encode (budget - (encode item).length) rest
    else []

/-- The whole items are a leading part of the list. -/
theorem wholeWithin_leading (encode : β → List α) (budget : Nat) (items : List β) :
    wholeWithin encode budget items <+: items := by
  -- Frames are taken from the front until one of them does not fit.
  induction items generalizing budget with
  | nil => simp [wholeWithin]
  | cons item rest ih =>
    simp only [wholeWithin]
    split
    · exact List.prefix_cons_inj item |>.mpr (ih _)
    · simp

/-- With room for every frame no item is lost. -/
theorem wholeWithin_all (encode : β → List α) {budget : Nat} {items : List β}
    (room : (encodeAll encode items).length ≤ budget) :
    wholeWithin encode budget items = items := by
  -- The budget is enough for the first item, and its rest for the others.
  induction items generalizing budget with
  | nil => rfl
  | cons item rest ih =>
    simp only [encodeAll_cons, List.length_append] at room
    rw [wholeWithin, if_pos (by omega), ih (by omega)]

/-- Cutting a stream leaves the whole frames and at most one torn part behind them. -/
theorem take_encodeAll (encode : β → List α) (budget : Nat) (items : List β) :
    ∃ part, (encodeAll encode items).take budget =
        encodeAll encode (wholeWithin encode budget items) ++ part ∧
      (part = [] ∨ ∃ item ∈ items, TornPart part (encode item)) := by
  induction items generalizing budget with
  | nil => exact ⟨[], by simp [wholeWithin], Or.inl rfl⟩
  | cons item rest ih =>
    by_cases fits : (encode item).length ≤ budget
    · -- The first frame survives, and the cut falls somewhere in the rest.
      obtain ⟨part, cut, torn⟩ := ih (budget - (encode item).length)
      refine ⟨part, ?_, ?_⟩
      · rw [encodeAll_cons, List.take_append, List.take_of_length_le fits, cut]
        simp [wholeWithin, fits]
      · rcases torn with none | ⟨owner, member, torn⟩
        · exact Or.inl none
        · exact Or.inr ⟨owner, List.mem_cons_of_mem _ member, torn⟩
    · -- The cut falls inside the first frame, so nothing whole survives.
      refine ⟨(encode item).take budget, ?_, Or.inr ⟨item, List.mem_cons_self, ?_⟩⟩
      · rw [encodeAll_cons, List.take_append_of_le_length (by omega)]
        simp [wholeWithin, fits]
      · exact ⟨List.take_prefix _ _, by simp only [List.length_take]; omega⟩

namespace FrameCodec

variable {encode : β → List α} {decode : Nat → List α → Outcome ε (β × Nat)}
  {Fits : β → Prop} {Torn : ε → Prop}

/-- No frame is empty, since decoding it moves forward. -/
theorem encode_length_pos (codec : FrameCodec encode decode Fits Torn) {item : β}
    (fits : Fits item) : 0 < (encode item).length :=
  codec.advances _ _ _ _ (codec.whole item fits 0 [])

/-- Whole frames in front of a stream are yielded in order before the rest is scanned. -/
theorem scanAll_encodeAll (codec : FrameCodec encode decode Fits Torn) {items : List β}
    (fits : ∀ item ∈ items, Fits item) (pos : Nat) (tail : List α) :
    scanAll decode pos (encodeAll encode items ++ tail) =
      { scanAll decode (pos + (encodeAll encode items).length) tail with
        items := items ++
          (scanAll decode (pos + (encodeAll encode items).length) tail).items } := by
  induction items generalizing pos with
  | nil => simp
  | cons item rest ih =>
    have head := fits item List.mem_cons_self
    have positive := codec.encode_length_pos head
    have some : encode item ++ (encodeAll encode rest ++ tail) ≠ [] := by
      intro empty
      have lengths := congrArg List.length empty
      simp only [List.length_append, List.length_nil] at lengths
      omega
    -- The first frame decodes to its item, and the induction covers what lies behind it.
    rw [encodeAll_cons, List.append_assoc, scanAll_ok codec.advances some (codec.whole item head _ _),
      List.drop_left, ih (fun other member => fits other (List.mem_cons_of_mem _ member))]
    simp only [Scan.cons, List.length_append, Nat.add_assoc, List.cons_append]

/-- A stream of whole frames yields its items and ends cleanly. -/
theorem scanAll_whole (codec : FrameCodec encode decode Fits Torn) {items : List β}
    (fits : ∀ item ∈ items, Fits item) (pos : Nat) :
    scanAll decode pos (encodeAll encode items) =
      ⟨items, pos + (encodeAll encode items).length, .eof⟩ := by
  simpa using codec.scanAll_encodeAll fits pos []

/-- What is rejected behind whole frames is reported at the end of the last one. -/
theorem scanAll_rejected (codec : FrameCodec encode decode Fits Torn) {items : List β}
    (fits : ∀ item ∈ items, Fits item) (pos : Nat) {rest : List α} (some : rest ≠ []) {error : ε}
    (rejected : decode (pos + (encodeAll encode items).length) rest = .err error) :
    scanAll decode pos (encodeAll encode items ++ rest) =
      ⟨items, pos + (encodeAll encode items).length, .failed error⟩ := by
  -- The whole frames are read first, and what is behind them ends the scan.
  rw [codec.scanAll_encodeAll fits pos rest, scanAll_err some rejected]
  simp

end FrameCodec

end Zradar
