import RestRpc.BlockDigest
import RestRpc.Md5
import Mathlib.Data.List.Basic
import Mathlib.Tactic.IntervalCases

/-! What `md5.hpp` computes. The message digest is stated here as it is published: a padded message, rounds of
sixteen operations on four registers in place, and an output of sixteen octets. The source never builds the padded
message, rotates its registers through one operation, and keeps the first octets of the digest as a number. -/
namespace RestRpc.Md5Standard
open Octets BlockDigest Md5

def rotateLeft (value : UInt32) (bits : Nat) : UInt32 := ⟨value.toBitVec.rotateLeft bits⟩

def auxiliary (round : Nat) (x y z : UInt32) : UInt32 :=
  match round with
  | 0 => (x &&& y) ||| (~~~x &&& z)
  | 1 => (x &&& z) ||| (y &&& ~~~z)
  | 2 => x ^^^ y ^^^ z
  | _ => y ^^^ (x ||| ~~~z)

def order : List Nat := [
  0,1,2,3,4,5,6,7,8,9,10,11,12,13,14,15,
  1,6,11,0,5,10,15,4,9,14,3,8,13,2,7,12,
  5,8,11,14,1,4,7,10,13,0,3,6,9,12,15,2,
  0,7,14,5,12,3,10,1,8,15,6,13,4,11,2,9]

def shifts : List (List Nat) := [[7,12,17,22],[5,9,14,20],[4,11,16,23],[6,10,15,21]]

/-- `a = b + ((a + F(b,c,d) + X[k] + T[i]) <<< s)`, for the operation that is the `i`th. -/
def operation (words : List UInt32) (i : Nat) (a b c d : UInt32) : UInt32 :=
  b + rotateLeft (a + auxiliary (i/16) b c d + words.getD (order.getD i 0) 0 + kConstants.getD i 0)
    ((shifts.getD (i/16) []).getD (i%4) 0)

/-- Four operations, after which each register has been set once. -/
def fourOperations (words : List UInt32) (registers : IntermediateData) (four : Nat) : IntermediateData :=
  let a := operation words (4*four) registers.a registers.b registers.c registers.d
  let d := operation words (4*four+1) registers.d a registers.b registers.c
  let c := operation words (4*four+2) registers.c d a registers.b
  let b := operation words (4*four+3) registers.b c d a
  ⟨a,b,c,d⟩

def words (block : List UInt8) : List UInt32 :=
  (List.range 16).map fun k => UInt32.ofNat (load .little ((block.drop (4*k)).take 4))

def compress (registers : IntermediateData) (block : List UInt8) : IntermediateData :=
  add registers ((List.range 16).foldl (fourOperations (words block)) registers)

def md5 (message : List UInt8) : List UInt8 :=
  let registers := digest 64 8 compress kInitialIntermediateData message
  store .little 4 registers.a.toNat ++ store .little 4 registers.b.toNat ++
    store .little 4 registers.c.toNat ++ store .little 4 registers.d.toNat

example : md5 [0x61,0x62,0x63] = [0x90,0x01,0x50,0x98,0x3c,0xd2,0x4f,0xb0,0xd6,0x96,0x3f,0x7d,0x28,0xe1,0x7f,0x72] := by
  decide +kernel

theorem bits_choose : ∀ x y z : Bool, (z ^^ (x && (y ^^ z))) = (x && y || !x && z) := by decide

theorem bits_choose_last : ∀ x y z : Bool, (y ^^ (z && (x ^^ y))) = (x && z || y && !z) := by decide

theorem words_eq (f g : UInt32 → UInt32 → UInt32 → UInt32)
    (same : ∀ (b c d : BitVec 32), (f ⟨b⟩ ⟨c⟩ ⟨d⟩).toBitVec = (g ⟨b⟩ ⟨c⟩ ⟨d⟩).toBitVec) (b c d : UInt32) :
    f b c d = g b c d :=
  UInt32.toBitVec_inj.mp (same b.toBitVec c.toBitVec d.toBitVec)

/-- The source's mixing functions take one operation less. -/
theorem calcF_auxiliary (i : Nat) (small : i < 64) (b c d : UInt32) : calcF i b c d = auxiliary (i/16) b c d := by
  unfold calcF
  split
  · have round : i/16 = 0 := by omega
    rw [round]
    refine words_eq (fun b c d => d ^^^ (b &&& (c ^^^ d))) (auxiliary 0) (fun b c d => ?_) b c d
    ext k inside
    simpa [auxiliary] using bits_choose _ _ _
  · split
    · have round : i/16 = 1 := by omega
      rw [round]
      refine words_eq (fun b c d => c ^^^ (d &&& (b ^^^ c))) (auxiliary 1) (fun b c d => ?_) b c d
      ext k inside
      simpa [auxiliary] using bits_choose_last _ _ _
    · split
      · have round : i/16 = 2 := by omega
        rw [round]
        rfl
      · have round : i/16 = 3 := by omega
        rw [round]
        rfl

theorem leftRotate_rotateLeft (value bits : UInt32) (positive : 0 < bits.toNat) (small : bits.toNat < 32) :
    leftRotate value bits = rotateLeft value bits.toNat := by
  have rest : (32-bits).toNat = 32-bits.toNat := by
    rw [UInt32.toNat_sub_of_le]
    · rfl
    · exact UInt32.le_iff_toNat_le.mpr (Nat.le_of_lt small)
  have low : (bits.toBitVec % 32).toNat = bits.toNat % 32 := BitVec.toNat_umod
  have high : ((32-bits).toBitVec % 32).toNat = 32 - bits.toNat % 32 := by
    refine BitVec.toNat_umod.trans ?_
    rw [UInt32.toNat_toBitVec,rest,Nat.mod_eq_of_lt small]
    exact Nat.mod_eq_of_lt (Nat.sub_lt (by decide) positive)
  apply UInt32.toBitVec_inj.mp
  simp only [leftRotate,rotateLeft,UInt32.toBitVec_or,UInt32.toBitVec_shiftLeft,UInt32.toBitVec_shiftRight,
    BitVec.shiftLeft_eq',BitVec.ushiftRight_eq',BitVec.rotateLeft_def,low,high]

theorem schedule (i : Nat) (small : i < 64) : calcG i = order.getD i 0 ∧ order.getD i 0 < 16 ∧
    (getShift i).toNat = (shifts.getD (i/16) []).getD (i%4) 0 ∧ 0 < (getShift i).toNat ∧ (getShift i).toNat < 32 := by
  revert i
  decide

theorem applyStep_operation (data : Array UInt32) (taken : List UInt32)
    (same : ∀ k < 16, data.getD k 0 = taken.getD k 0) (i : Nat) (small : i < 64) (x : IntermediateData) :
    applyStep i data x = ⟨x.d,operation taken i x.a x.b x.c x.d,x.b,x.c⟩ := by
  obtain ⟨word,inside,shift,positive,less⟩ := schedule i small
  unfold applyStep
  extract_lets f
  have sum : f = x.a + auxiliary (i/16) x.b x.c x.d + taken.getD (order.getD i 0) 0 + kConstants.getD i 0 := by
    unfold f
    rw [calcF_auxiliary i small,word,same _ inside]
    ac_rfl
  rw [leftRotate_rotateLeft f (getShift i) positive less,shift,sum]
  rfl

theorem foldl_fours {State : Type} (f : State → Nat → State) (count : Nat) (state : State) :
    (List.range (4*count)).foldl f state = (List.range count).foldl
      (fun before four => f (f (f (f before (4*four)) (4*four+1)) (4*four+2)) (4*four+3)) state := by
  induction count with
  | zero => rfl
  | succ count ih =>
    have split : 4*(count+1) = 4*count+1+1+1+1 := by omega
    simp only [split,List.range_succ,List.foldl_append,ih,List.foldl_cons,List.foldl_nil]

theorem steps_fourOperations (data : Array UInt32) (taken : List UInt32)
    (same : ∀ k < 16, data.getD k 0 = taken.getD k 0) (before : IntermediateData) :
    (List.range 64).foldl (fun x i => applyStep i data x) before =
      (List.range 16).foldl (fourOperations taken) before := by
  refine (foldl_fours (fun x i => applyStep i data x) 16 before).trans ?_
  refine List.foldl_ext _ _ _ fun x four member => ?_
  have small := List.mem_range.mp member
  rw [applyStep_operation data taken same _ (by omega),applyStep_operation data taken same _ (by omega),
    applyStep_operation data taken same _ (by omega),applyStep_operation data taken same _ (by omega)]
  rfl

theorem paddedLength (message : List UInt8) (short : message.length < 2^29) :
    (getPaddedMessageLength (UInt32.ofNat message.length)).toNat = (padded 64 8 message).length := by
  rw [padded_blocks 64 8 message (by decide)]
  have size : (UInt32.ofNat message.length).toNat = message.length :=
    UInt32.toNat_ofNat_of_lt' (Nat.lt_trans short (by decide))
  simp only [getPaddedMessageLength,UInt32.toNat_add,UInt32.toNat_div,UInt32.toNat_mul,UInt32.toNat_ofNat,size,
    Nat.reducePow,Nat.reduceMod]
  omega

theorem extractByte_div (value : UInt64) (i : UInt32) (small : i.toNat < 8) :
    extractByte value i = UInt8.ofNat (value.toNat/256^i.toNat) := by
  have shift : (i*8).toUInt64.toNat % 64 = 8*i.toNat := by
    simp only [UInt32.toNat_toUInt64,UInt32.toNat_mul,UInt32.toNat_ofNat]
    omega
  apply UInt8.toNat_inj.mp
  simp only [extractByte,UInt64.toNat_toUInt8,UInt64.toNat_and,UInt64.toNat_shiftRight,shift,UInt64.toNat_ofNat]
  rw [Nat.shiftRight_eq_div_pow,Nat.pow_mul]
  have mask (x : Nat) : x &&& 255 % 2^64 = x % 256 := Nat.and_two_pow_sub_one_eq_mod x 8
  rw [mask]
  simp

theorem paddedByte (message : List UInt8) (short : message.length < 2^29) (i : UInt32)
    (inside : i.toNat < (padded 64 8 message).length) :
    (padded 64 8 message)[i.toNat]? = some (getPaddedMessageByte message (UInt32.ofNat message.length)
      (getPaddedMessageLength (UInt32.ofNat message.length)) i) := by
  have size : (UInt32.ofNat message.length).toNat = message.length :=
    UInt32.toNat_ofNat_of_lt' (Nat.lt_trans short (by decide))
  have whole := paddedLength message short
  have length := padded_length 64 8 message
  have eight : (8 : UInt32).toNat = 8 := rfl
  have last : (getPaddedMessageLength (UInt32.ofNat message.length) - 8).toNat = (padded 64 8 message).length-8 := by
    rw [UInt32.toNat_sub_of_le,whole,eight]
    rw [UInt32.le_iff_toNat_le,whole,eight]
    omega
  have bits : (UInt32.ofNat message.length * 8).toUInt64.toNat = 8*message.length := by
    simp only [UInt32.toNat_toUInt64,UInt32.toNat_mul,size,eight]
    omega
  rw [padded_getElem? 64 8 message _ inside]
  simp only [getPaddedMessageByte,UInt32.lt_iff_toNat_lt,UInt32.le_iff_toNat_le,← UInt32.toNat_inj,size,last]
  split
  · rfl
  · split
    · rfl
    · split
      · rename_i field
        have place : (i-(getPaddedMessageLength (UInt32.ofNat message.length)-8)).toNat =
            i.toNat-((padded 64 8 message).length-8) := by
          rw [UInt32.toNat_sub_of_le _ _ (UInt32.le_iff_toNat_le.mpr (by rwa [last])),last]
        rw [extractByte_div _ _ (by omega),bits,place]
      · rfl

/-- Four octets, least significant first, as shifted and joined by the source. -/
theorem joined (a b c d : UInt8) : a.toUInt32 ||| (b.toUInt32 <<< 8) ||| (c.toUInt32 <<< 16) ||| (d.toUInt32 <<< 24) =
    UInt32.ofNat (load .little [a,b,c,d]) := by
  have wa := a.toNat_lt
  have wb := b.toNat_lt
  have wc := c.toNat_lt
  have wd := d.toNat_lt
  have join (low high k : Nat) (less : low < 2^k) : low ||| high * 2^k = low + high * 2^k := by
    rw [← Nat.shiftLeft_eq,Nat.or_comm,← Nat.shiftLeft_add_eq_or_of_lt less,Nat.add_comm]
  have shifted (octet : UInt8) (k : Nat) (small : k ≤ 24) : octet.toNat <<< k % 2^32 = octet.toNat * 2^k := by
    rw [Nat.shiftLeft_eq,Nat.mod_eq_of_lt]
    calc octet.toNat * 2^k < 2^8 * 2^k := Nat.mul_lt_mul_of_pos_right octet.toNat_lt (Nat.two_pow_pos k)
      _ ≤ 2^8 * 2^24 := Nat.mul_le_mul_left _ (Nat.pow_le_pow_right (by decide) small)
      _ = 2^32 := rfl
  apply UInt32.toNat_inj.mp
  rw [UInt32.toNat_ofNat_of_lt']
  · simp only [UInt32.toNat_or,UInt32.toNat_shiftLeft,UInt8.toNat_toUInt32,UInt32.toNat_ofNat,Nat.reduceMod,
      Nat.reducePow,load,littleValue]
    have h1 := shifted b 8 (by decide)
    have h2 := shifted c 16 (by decide)
    have h3 := shifted d 24 (by decide)
    have j1 := join a.toNat b.toNat 8 wa
    have j2 := join (a.toNat+b.toNat*2^8) c.toNat 16 (by omega)
    have j3 := join (a.toNat+b.toNat*2^8+c.toNat*2^16) d.toNat 24 (by omega)
    simp only [Nat.reducePow] at h1 h2 h3 j1 j2 j3
    rw [h1,h2,h3,j1,j2,j3]
    omega
  · exact Nat.lt_of_lt_of_le (load_lt .little [a,b,c,d]) (by simp [UInt32.size])

theorem take_four {Octet : Type} (octets : List Octet) (i : Nat) (a b c d : Octet) (first : octets[i]? = some a)
    (second : octets[i+1]? = some b) (third : octets[i+2]? = some c) (fourth : octets[i+3]? = some d) :
    (octets.drop i).take 4 = [a,b,c,d] := by
  obtain ⟨h0,rfl⟩ := List.getElem?_eq_some_iff.mp first
  obtain ⟨h1,rfl⟩ := List.getElem?_eq_some_iff.mp second
  obtain ⟨h2,rfl⟩ := List.getElem?_eq_some_iff.mp third
  obtain ⟨h3,rfl⟩ := List.getElem?_eq_some_iff.mp fourth
  rw [List.drop_eq_getElem_cons h0,List.drop_eq_getElem_cons h1,List.drop_eq_getElem_cons h2,
    List.drop_eq_getElem_cons h3]
  rfl

theorem paddedWord (message : List UInt8) (short : message.length < 2^29) (i : UInt32)
    (inside : i.toNat + 4 ≤ (padded 64 8 message).length) :
    getPaddedMessageWord message (UInt32.ofNat message.length)
      (getPaddedMessageLength (UInt32.ofNat message.length)) i =
        UInt32.ofNat (load .little (((padded 64 8 message).drop i.toNat).take 4)) := by
  have whole := paddedLength message short
  have limit := (getPaddedMessageLength (UInt32.ofNat message.length)).toNat_lt
  have octet (j : UInt32) (small : j.toNat < 4) : (padded 64 8 message)[i.toNat+j.toNat]? = some (
      getPaddedMessageByte message (UInt32.ofNat message.length)
        (getPaddedMessageLength (UInt32.ofNat message.length)) (i+j)) := by
    have place : (i+j).toNat = i.toNat+j.toNat := by
      rw [UInt32.toNat_add]
      omega
    rw [← place]
    exact paddedByte message short (i+j) (by omega)
  have zero := octet 0 (by decide)
  rw [UInt32.add_zero] at zero
  change (padded 64 8 message)[i.toNat]? = _ at zero
  rw [take_four _ _ _ _ _ _ zero (octet 1 (by decide)) (octet 2 (by decide)) (octet 3 (by decide)),← joined]
  rfl

theorem roundData (message : List UInt8) (short : message.length < 2^29) (block : Nat)
    (inside : 64*block+64 ≤ (padded 64 8 message).length) (k : Nat) (small : k < 16) :
    (getRoundData message (UInt32.ofNat message.length) (getPaddedMessageLength (UInt32.ofNat message.length))
      (64 * UInt32.ofNat block)).getD k 0 =
        (words (((padded 64 8 message).drop (64*block)).take 64)).getD k 0 := by
  have whole := paddedLength message short
  have limit := (getPaddedMessageLength (UInt32.ofNat message.length)).toNat_lt
  have place : (64 * UInt32.ofNat block + 4 * UInt32.ofNat k).toNat = 64*block+4*k := by
    simp only [UInt32.toNat_add,UInt32.toNat_mul,UInt32.toNat_ofNat,UInt32.toNat_ofNat',Nat.reducePow,Nat.reduceMod]
    omega
  have word := paddedWord message short (64 * UInt32.ofNat block + 4 * UInt32.ofNat k) (by omega)
  have cut : ((((padded 64 8 message).drop (64*block)).take 64).drop (4*k)).take 4 =
      ((padded 64 8 message).drop (64*block+4*k)).take 4 := by
    rw [List.drop_take,List.take_take,List.drop_drop,Nat.min_eq_left (by omega)]
  simp only [getRoundData,words,Array.getD_eq_getD_getElem?,List.getElem?_toArray,List.getD_eq_getElem?_getD,
    List.getElem?_map,List.getElem?_range small,Option.map_some,Option.getD_some]
  rw [word,place,cut]

theorem processMessage_digest (message : List UInt8) (short : message.length < 2^29) :
    processMessage message (UInt32.ofNat message.length) = digest 64 8 compress kInitialIntermediateData message := by
  have whole := paddedLength message short
  have blocks := padded_blocks 64 8 message (by decide)
  unfold processMessage
  extract_lets m
  have absorbed := absorb_eq_foldl 64 compress ((padded 64 8 message).length/64) 0 kInitialIntermediateData
    (padded 64 8 message)
  rw [Nat.mul_zero,List.drop_zero,← List.range_eq_range'] at absorbed
  refine Eq.trans ?_ absorbed.symm
  rw [whole]
  refine List.foldl_ext _ _ _ fun before block member => ?_
  have less := List.mem_range.mp member
  have inside : 64*block+64 ≤ (padded 64 8 message).length := by omega
  exact congrArg (add before)
    (steps_fourOperations _ _ (roundData message short block inside) before)

theorem masked (a shift : UInt32) (k : Nat) (same : shift.toNat = 8*k) (small : k < 4) :
    (UInt8.ofNat (a.toNat/256^k)).toUInt32 = (a >>> shift) &&& 0xff := by
  have mask (x : Nat) : x &&& 255 = x % 256 := Nat.and_two_pow_sub_one_eq_mod x 8
  apply UInt32.toNat_inj.mp
  simp only [UInt8.toNat_toUInt32,UInt8.toNat_ofNat',UInt32.toNat_and,UInt32.toNat_shiftRight,same,UInt32.toNat_ofNat,
    Nat.reducePow,Nat.reduceMod,mask,Nat.shiftRight_eq_div_pow,Nat.mod_eq_of_lt (show 8*k < 32 by omega)]
  rw [Nat.pow_mul]

theorem or_reversed (a b c d : UInt32) : a ||| b ||| c ||| d = d ||| c ||| b ||| a := by ac_rfl

theorem swapEndian_load (a : UInt32) : swapEndian a = UInt32.ofNat (load .big (store .little 4 a.toNat)) := by
  have swapped : load .big (store .little 4 a.toNat) = load .little [UInt8.ofNat (a.toNat/256/256/256),
      UInt8.ofNat (a.toNat/256/256),UInt8.ofNat (a.toNat/256),UInt8.ofNat a.toNat] := rfl
  have third : a.toNat/256/256/256 = a.toNat/256^3 := by omega
  have second : a.toNat/256/256 = a.toNat/256^2 := by omega
  have first : a.toNat/256 = a.toNat/256^1 := by rw [Nat.pow_one]
  have lowest := masked a 0 0 rfl (by decide)
  rw [Nat.pow_zero,Nat.div_one,UInt32.shiftRight_zero] at lowest
  rw [swapped,← joined,third,second,first,masked a 24 3 rfl (by decide),masked a 16 2 rfl (by decide),
    masked a 8 1 rfl (by decide),lowest]
  exact or_reversed ..

/-- The key of a function and the id of a topic is the number that the first four octets of the MD5 digest of its
name spell, for names whose length in bits fits in the 32 bits that the source takes for it. -/
theorem md5Hash32_md5 (string : List UInt8) (short : string.length < 2^29) :
    md5Hash32 string = UInt32.ofNat (load .big ((md5 string).take 4)) := by
  have first : (md5 string).take 4 =
      store .little 4 (digest 64 8 compress kInitialIntermediateData string).a.toNat := by
    simp only [md5,List.append_assoc]
    rw [List.take_append_of_le_length (by simp),List.take_of_length_le (by simp)]
  rw [md5Hash32,processMessage_digest string short,swapEndian_load,first]

theorem md5Hash32_md5_abc : md5Hash32 [0x61,0x62,0x63] = 0x90015098 := by
  have octets : (md5 [0x61,0x62,0x63]).take 4 = [0x90,0x01,0x50,0x98] := by decide +kernel
  rw [md5Hash32_md5 [0x61,0x62,0x63] (by decide),octets]
  rfl

end RestRpc.Md5Standard
