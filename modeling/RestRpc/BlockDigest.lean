import RestRpc.Octets

/-! Iterated digests: a message is padded to whole blocks, the last of which ends with its length in bits, and
a compression takes in one block after another. A program that computes the padded octets from their positions,
without the padded message, computes the digest of the message. -/
namespace RestRpc.BlockDigest
open Octets

variable {State : Type}

def zeros (block field length : Nat) : Nat := (2*block-1-field-length%block)%block

/-- A one bit, zeros, and the length in bits as a little-endian number of `field` octets. -/
def padded (block field : Nat) (message : List UInt8) : List UInt8 :=
  message ++ 0x80::(List.replicate (zeros block field message.length) 0 ++
    store .little field (8*message.length))

/-- What is left of some octets after `count` blocks have been taken in. -/
def absorb (block : Nat) (compress : State → List UInt8 → State) : Nat → State → List UInt8 → State
  | 0,state,_ => state
  | count+1,state,octets =>
    absorb block compress count (compress state (octets.take block)) (octets.drop block)

def digest (block field : Nat) (compress : State → List UInt8 → State) (initial : State)
    (message : List UInt8) : State :=
  let octets := padded block field message
  absorb block compress (octets.length/block) initial octets

theorem absorb_eq_foldl (block : Nat) (compress : State → List UInt8 → State) (count start : Nat) (state : State)
    (octets : List UInt8) : absorb block compress count state (octets.drop (block*start)) =
      (List.range' start count).foldl
        (fun before k => compress before ((octets.drop (block*k)).take block)) state := by
  induction count generalizing start state with
  | zero => rfl
  | succ count ih =>
    have next := ih (start+1) (compress state ((octets.drop (block*start)).take block))
    rw [absorb,List.drop_drop,← Nat.mul_succ,next]
    rfl

theorem zeros_cases (block field length : Nat) (room : field < block) :
    length%block+1+field ≤ block ∧ zeros block field length = block-1-field-length%block ∨
      block < length%block+1+field ∧ zeros block field length = 2*block-1-field-length%block := by
  have less := Nat.mod_lt length (Nat.zero_lt_of_lt room)
  unfold zeros
  rcases Nat.lt_or_ge block (length%block+1+field) with wide | narrow
  · exact .inr ⟨wide,Nat.mod_eq_of_lt (by omega)⟩
  · refine .inl ⟨narrow,?_⟩
    rw [Nat.mod_eq_sub_mod (by omega),Nat.mod_eq_of_lt (by omega)]
    omega

@[simp] theorem padded_length (block field : Nat) (message : List UInt8) : (padded block field message).length =
    message.length+1+zeros block field message.length+field := by
  simp [padded]
  omega

theorem padded_blocks (block field : Nat) (message : List UInt8) (room : field < block) :
    (padded block field message).length = (message.length+1+field+(block-1))/block*block := by
  have split := Nat.div_add_mod message.length block
  have less := Nat.mod_lt message.length (Nat.zero_lt_of_lt room)
  have positive : 0 < block := Nat.zero_lt_of_lt room
  rw [padded_length]
  rcases zeros_cases block field message.length room with ⟨narrow,same⟩ | ⟨wide,same⟩
  · have count : (message.length+1+field+(block-1))/block = message.length/block+1 := by
      apply Nat.div_eq_of_lt_le
      · rw [Nat.add_mul,Nat.mul_comm]
        omega
      · rw [Nat.add_mul,Nat.add_mul,Nat.mul_comm]
        omega
    rw [same,count,Nat.add_mul,Nat.mul_comm (message.length/block)]
    omega
  · have count : (message.length+1+field+(block-1))/block = message.length/block+2 := by
      apply Nat.div_eq_of_lt_le
      · rw [Nat.add_mul,Nat.mul_comm]
        omega
      · rw [Nat.add_mul,Nat.add_mul,Nat.mul_comm]
        omega
    rw [same,count,Nat.add_mul,Nat.mul_comm (message.length/block)]
    omega

theorem littleOctets_getElem? (width value i : Nat) (inside : i < width) :
    (littleOctets width value)[i]? = some (UInt8.ofNat (value/256^i)) := by
  induction width generalizing value i with
  | zero => omega
  | succ width ih =>
    cases i with
    | zero => simp [littleOctets]
    | succ i =>
      rw [littleOctets,List.getElem?_cons_succ,ih _ i (by omega),Nat.div_div_eq_div_mul,pow_succ']

theorem padded_getElem? (block field : Nat) (message : List UInt8) (i : Nat)
    (inside : i < (padded block field message).length) :
    (padded block field message)[i]? = some (
      if i < message.length then message.getD i 0
      else if i = message.length then 0x80
      else if (padded block field message).length-field ≤ i then
        UInt8.ofNat (8*message.length/256^(i-((padded block field message).length-field)))
      else 0) := by
  rw [padded_length] at inside ⊢
  split
  · rename_i early
    rw [padded,List.getElem?_append_left early,List.getD_eq_getElem?_getD,List.getElem?_eq_getElem early]
    rfl
  · rename_i late
    rw [padded,List.getElem?_append_right (by omega)]
    split
    · rename_i same
      simp [same]
    · rename_i after
      obtain ⟨j,at_⟩ : ∃ j, i-message.length = j+1 := ⟨i-message.length-1,by omega⟩
      rw [at_,List.getElem?_cons_succ]
      split
      · rename_i last
        rw [List.getElem?_append_right (by simp; omega),List.length_replicate]
        have place : j-zeros block field message.length =
            i-(message.length+1+zeros block field message.length+field-field) := by omega
        rw [← place]
        exact littleOctets_getElem? field _ _ (by omega)
      · rename_i middle
        rw [List.getElem?_append_left (by simp; omega),List.getElem?_replicate,if_pos (by omega)]

end RestRpc.BlockDigest
