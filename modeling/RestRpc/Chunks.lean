import Mathlib.Data.List.Flatten

/-! Byte streams that arrive cut into chunks, and reads of an exact length.
The cut never matters: a read returns the next octets of the concatenation and
leaves a stream that concatenates to the rest. -/
namespace RestRpc.Chunks

variable {Octet : Type}

/-- Read exactly `count` octets, taking chunks as they come; `none` at the end of
the stream. -/
def readExactly : Nat → List (List Octet) → Option (List Octet × List (List Octet))
  | 0,chunks => some ([],chunks)
  | _+1,[] => none
  | count+1,chunk::chunks =>
    if chunk.length ≤ count+1 then
      (readExactly (count+1-chunk.length) chunks).map fun (octets,rest) => (chunk++octets,rest)
    else some (chunk.take (count+1),chunk.drop (count+1)::chunks)

theorem readExactly_take (count : Nat) (chunks : List (List Octet))
    (enough : count ≤ chunks.flatten.length) :
    ∃ rest, readExactly count chunks = some (chunks.flatten.take count,rest) ∧
      rest.flatten = chunks.flatten.drop count := by
  induction chunks generalizing count with
  | nil =>
    obtain rfl : count = 0 := by simpa using enough
    exact ⟨[],rfl,rfl⟩
  | cons chunk chunks ih =>
    cases count with
    | zero => exact ⟨chunk::chunks,by simp [readExactly],by simp⟩
    | succ count =>
      rw [List.flatten_cons,List.length_append] at enough
      by_cases fits : chunk.length ≤ count+1
      · obtain ⟨rest,taken,left⟩ := ih (count+1-chunk.length) (by omega)
        refine ⟨rest,?_,?_⟩
        · simp [readExactly,fits,taken,List.take_append,List.take_of_length_le fits]
        · simp [left,List.drop_append,List.drop_eq_nil_of_le fits]
      · refine ⟨chunk.drop (count+1)::chunks,?_,?_⟩
        · simp [readExactly,fits,List.take_append,show count+1-chunk.length = 0 by omega]
        · simp [List.drop_append,show count+1-chunk.length = 0 by omega]

theorem readExactly_some (chunks : List (List Octet)) (octets tail : List Octet)
    (joined : chunks.flatten = octets ++ tail) :
    ∃ rest, readExactly octets.length chunks = some (octets,rest) ∧ rest.flatten = tail := by
  have read := readExactly_take octets.length chunks (by simp [joined])
  simpa [joined] using read

theorem readExactly_none (count : Nat) (chunks : List (List Octet))
    (short : chunks.flatten.length < count) : readExactly count chunks = none := by
  induction chunks generalizing count with
  | nil =>
    cases count with
    | zero => simp at short
    | succ count => rfl
  | cons chunk chunks ih =>
    cases count with
    | zero => simp at short
    | succ count =>
      rw [List.flatten_cons,List.length_append] at short
      simp [readExactly,show chunk.length ≤ count+1 by omega,ih (count+1-chunk.length) (by omega)]

/-- A way a transport may cut what is written to it; it loses and adds nothing. -/
structure Transport (Octet : Type) where
  cut : List Octet → List (List Octet)
  flatten_cut : ∀ octets, (cut octets).flatten = octets

end RestRpc.Chunks
