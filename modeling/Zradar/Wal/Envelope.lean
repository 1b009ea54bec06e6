import Zradar.Wal.Batch

/-! Which payloads the batch envelope accepts: encodings of rows, with or without bytes behind them. -/

namespace Zradar.Wal

/-- Rows that the words of an envelope can describe. -/
structure Describable (rows : List Bytes) : Prop where
  few : rows.length < 2 ^ 32
  short : ∀ row ∈ rows, row.length < 2 ^ 32

/-- An encoding of rows with at least one byte more behind it. -/
def HasLeftover (payload : Bytes) : Prop :=
  ∃ rows extra, Describable rows ∧ extra ≠ [] ∧ payload = encodeJsonRows rows ++ extra

/-- A word of four bytes denotes less than its range. -/
theorem decodeBe_word_lt {data : Bytes} (long : 4 ≤ data.length) :
    decodeBe (data.take 4) < 2 ^ 32 := by
  have bound := decodeBe_lt (data.take 4)
  rw [List.length_take, Nat.min_eq_left long] at bound
  exact bound

/-- A word of four bytes is written as it was read. -/
theorem encodeBe_word {data : Bytes} (long : 4 ≤ data.length) :
    encodeBe 4 (decodeBe (data.take 4)) = data.take 4 :=
  encodeBe_decodeBe (by rw [List.length_take]; omega)

/-- What the loop accepts are the frames of its rows, and whatever follows them. -/
theorem decodeRows_frames {declared left index : Nat} {cursor : Bytes} {rows : List Bytes}
    (decoded : decodeRows declared left index cursor = .ok rows) :
    (∀ row ∈ rows, row.length < 2 ^ 32) ∧ ∃ extra, cursor = rows.flatMap encodeRow ++ extra := by
  -- The induction is on the rows that are still to be read.
  induction left generalizing index cursor rows with
  | zero =>
    cases decoded
    exact ⟨by simp, cursor, rfl⟩
  | succ left ih =>
    simp only [decodeRows] at decoded
    split at decoded
    · cases decoded
    · rename_i word
      split at decoded
      · cases decoded
      · rename_i covered
        split at decoded
        · cases decoded
        · rename_i others inner
          cases decoded
          obtain ⟨short, extra, rest⟩ := ih inner
          have sized : ((cursor.drop 4).take (decodeBe (cursor.take 4))).length =
              decodeBe (cursor.take 4) := by
            rw [List.length_take]
            omega
          have bound : decodeBe (cursor.take 4) < 2 ^ 32 := decodeBe_word_lt (by omega)
          constructor
          · intro row member
            rcases List.mem_cons.mp member with rfl | behind
            · omega
            · exact short row behind
          · -- The word, the row behind it and the frames of the others make up the cursor.
            refine ⟨extra, ?_⟩
            rw [List.flatMap_cons, List.append_assoc, ← rest, encodeRow, sized,
              encodeBe_word (by omega), List.append_assoc, List.take_append_drop,
              List.take_append_drop]

/-- An accepted payload is the encoding of the rows it yields, and whatever follows it. -/
theorem decodeBatch_frames {payload : Bytes} {decoded : BatchPayload}
    (accepted : decodeBatch payload = .ok (some decoded)) :
    Describable decoded.rows ∧ ∃ extra, payload = encodeJsonRows decoded.rows ++ extra := by
  unfold decodeBatch at accepted
  split at accepted
  · cases accepted
  · rename_i magic
    split at accepted
    · cases accepted
    · rename_i long
      split at accepted
      · cases accepted
      · rename_i tag cursor behind
        have sized := congrArg List.length behind
        simp only [List.length_drop, List.length_cons] at sized
        split at accepted
        · cases accepted
        · rename_i encoding known
          dsimp only at accepted
          split at accepted
          · cases accepted
          · rename_i rows inner
            cases accepted
            obtain ⟨short, extra, rest⟩ := decodeRows_frames inner
            have count := decodeRows_length inner
            have word : 4 ≤ cursor.length := by omega
            have bound := decodeBe_word_lt word
            refine ⟨⟨count ▸ bound, short⟩, extra, ?_⟩
            -- Magic, tag and count are written as they were read.
            have front : payload.take batchMagic.length = batchMagic :=
              of_not_not (not_or.mp magic).2
            have tagged : tag = BatchEncoding.jsonRowsV1.toU8 := by
              unfold BatchEncoding.fromU8 at known
              split at known
              · assumption
              · cases known
            have frames : cursor = encodeBe 4 rows.length ++ (rows.flatMap encodeRow ++ extra) := by
              rw [← rest, count, encodeBe_word word, List.take_append_drop]
            calc payload = payload.take batchMagic.length ++ payload.drop batchMagic.length :=
                  (List.take_append_drop _ _).symm
              _ = encodeJsonRows rows ++ extra := by
                  rw [front, behind, frames, tagged]
                  simp [encodeJsonRows]

/--
Encodings are read back, and an accepted payload is the encoding of its rows exactly when no bytes
are left over behind one.
-/
theorem decodeBatch_bijective_iff (rows : List Bytes) (payload : Bytes) :
    (Describable rows →
      decodeBatch (encodeJsonRows rows) = .ok (some ⟨.jsonRowsV1, rows⟩)) ∧
    (batchMagic <+: payload →
      ((∀ decoded, decodeBatch payload = .ok (some decoded) →
          payload = encodeJsonRows decoded.rows) ↔
        ¬ HasLeftover payload)) := by
  refine ⟨fun fits => decodeBatch_encodeJsonRows_of_lt fits.few fits.short, ?_⟩
  intro _
  constructor
  · -- The rows in front of the leftover are accepted, and they encode to less.
    rintro whole ⟨rows, extra, fits, some, rfl⟩
    have same := whole _ (decodeBatch_append_of_lt fits.few fits.short extra)
    exact some (List.append_right_eq_self.mp same)
  · intro exact decoded accepted
    obtain ⟨fits, extra, rest⟩ := decodeBatch_frames accepted
    by_cases none : extra = []
    · simpa [none] using rest
    · exact absurd ⟨decoded.rows, extra, fits, none, rest⟩ exact

/-- Two rows are read back, and their encoding is the only payload that yields them. -/
theorem decodeBatch_bijective_two :
    decodeBatch (encodeJsonRows [[123, 125], [91, 93]]) =
        .ok (some ⟨.jsonRowsV1, [[123, 125], [91, 93]]⟩) ∧
      ¬ HasLeftover (encodeJsonRows [[123, 125], [91, 93]]) := by
  -- What was decoded is what was encoded, so there is nothing left.
  obtain ⟨decodes, leaves⟩ := decodeBatch_bijective_iff [[123, 125], [91, 93]]
    (encodeJsonRows [[123, 125], [91, 93]])
  have decoded := decodes ⟨by decide, by simp⟩
  refine ⟨decoded, (leaves ⟨_, rfl⟩).mp ?_⟩
  intro other accepted
  rw [decoded] at accepted
  cases accepted
  rfl

/-- An empty envelope with a whole row behind it is accepted as one without rows. -/
theorem leftover_row_is_dropped :
    ¬ ∀ payload decoded, batchMagic <+: payload → decodeBatch payload = .ok (some decoded) →
      payload = encodeJsonRows decoded.rows := by
  -- The batch announces no row, and one stands behind it.
  intro exact
  have same := exact (encodeJsonRows [] ++ encodeRow [123, 125]) ⟨.jsonRowsV1, []⟩
    ⟨_, rfl⟩ (by decide)
  exact absurd same (by decide)

end Zradar.Wal
