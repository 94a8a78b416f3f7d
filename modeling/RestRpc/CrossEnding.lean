import RestRpc.Protocol

/-! The `cross_ending` passes between hosts of any two byte orders.
`htonl` puts every 32-bit word in network order. The repository's `htonll` does so
for a 64-bit word on a little-endian host only: on a big-endian host it exchanges
the halves, which its own `ntohll` undoes and a little-endian `ntohll` does not. -/
namespace RestRpc.CrossEnding
open Octets Protocol

theorem store64_little (high low : UInt32) :
    store64 .little (join high low) = store32 .little low ++ store32 .little high := by
  have lowWord : store32 .little low = littleOctets 4 ((join high low).toNat % 256^4) := by
    rw [join_toNat,show (256 : Nat)^4 = 2^32 from rfl,Nat.mul_add_mod_self_right,Nat.mod_eq_of_lt low.toNat_lt]
    rfl
  have highWord : store32 .little high = littleOctets 4 ((join high low).toNat / 256^4) := by
    have bound := low.toNat_lt
    rw [join_toNat,show (high.toNat * 2^32 + low.toNat) / 256^4 = high.toNat by omega]
    rfl
  rw [lowWord,highWord,littleOctets_mod,← littleOctets_add]
  rfl

theorem store64_big (high low : UInt32) :
    store64 .big (join high low) = store32 .big high ++ store32 .big low := by
  have reversed := congrArg List.reverse (store64_little high low)
  rwa [List.reverse_append] at reversed

theorem load64_little (first second : List UInt8) (fs : first.length = 4) (ss : second.length = 4) :
    load64 .little (first ++ second) = join (load32 .little second) (load32 .little first) := by
  have image := store64_little (load32 .little second) (load32 .little first)
  rw [store32_load32 _ _ fs,store32_load32 _ _ ss] at image
  rw [← image,load64_store64]

theorem htonl_image (host : ByteOrder) (value : UInt32) :
    store32 host (htonl host value) = store32 .big value := by
  cases host with
  | big => rfl
  | little => exact store32_load32 .little (store32 .big value) (by simp)

theorem ntohl_load (host : ByteOrder) (value : UInt32) :
    ntohl host (load32 host (store32 .big value)) = value := by
  cases host with
  | big => simp [ntohl]
  | little =>
    have image : store32 .big (load32 .little (store32 .big value)) = store32 .little value := by
      have reversed := congrArg List.reverse (store32_load32 .little (store32 .big value) (by simp))
      exact reversed.trans (List.reverse_reverse _)
    rw [ntohl,image,load32_store32]

def exchange (value : UInt64) : UInt64 := join (lowHalf value) (highHalf value)

theorem exchange_exchange (value : UInt64) : exchange (exchange value) = value := by
  simp [exchange,join_halves]

/-- The word whose big-endian image the repository's `htonll` leaves on the wire. -/
def networkWord : ByteOrder → UInt64 → UInt64
  | .little,value => value
  | .big,value => exchange value

theorem htonll_image (host : ByteOrder) (value : UInt64) :
    store64 host (htonll host value) = store64 .big (networkWord host value) := by
  cases host with
  | big => rfl
  | little =>
    calc store64 .little (htonll .little value)
        = store32 .little (htonl .little (highHalf value)) ++
            store32 .little (htonl .little (lowHalf value)) := store64_little _ _
      _ = store32 .big (highHalf value) ++ store32 .big (lowHalf value) := by
          rw [htonl_image,htonl_image]
      _ = store64 .big value := by rw [← store64_big,join_halves]

theorem ntohll_load (host : ByteOrder) (value : UInt64) :
    ntohll host (load64 host (store64 .big value)) = networkWord host value := by
  cases host with
  | big => rw [load64_store64]; rfl
  | little =>
    have image : store64 .big value = store32 .big (highHalf value) ++ store32 .big (lowHalf value) := by
      rw [← store64_big,join_halves]
    have parsed (high low : UInt32) : ntohll .little (join high low) =
        join (ntohl .little low) (ntohl .little high) := by
      change join (ntohl .little (lowHalf _)) (ntohl .little (highHalf _)) = _
      rw [lowHalf_join,highHalf_join]
    rw [image,load64_little _ _ (by simp) (by simp),parsed,ntohl_load,ntohl_load,join_halves]
    rfl

/-- A header as it reaches the receiver when both ends enable `cross_ending`. -/
def transfer (sender receiver : ByteOrder) (header : RestRpcHeader) : RestRpcHeader :=
  parseRecieved receiver (view receiver (image sender (prepareForSend sender header)))

theorem transfer_words (sender receiver : ByteOrder) (header : RestRpcHeader) :
    transfer sender receiver header =
      {header with
        seqNum := networkWord receiver (networkWord sender header.seqNum)
        bodyLen := networkWord receiver (networkWord sender header.bodyLen)
        attachLength := networkWord receiver (networkWord sender header.attachLength)} := by
  simp only [transfer,view_image_words,prepareForSend,parseRecieved,htonl_image,htonll_image,
    ntohl_load,ntohll_load]

theorem transfer_same (host : ByteOrder) (header : RestRpcHeader) :
    transfer host host header = header := by
  rw [transfer_words]
  cases host <;> simp only [networkWord,exchange_exchange]

structure Restored (sent received : RestRpcHeader) : Prop where
  functionId : received.functionId = sent.functionId
  seqNum : received.seqNum = sent.seqNum
  bodyLen : received.bodyLen = sent.bodyLen
  attachLength : received.attachLength = sent.attachLength

def HalvesAgree (value : UInt64) : Prop := highHalf value = lowHalf value

theorem exchange_eq_iff (value : UInt64) : exchange value = value ↔ HalvesAgree value := by
  constructor
  · intro same
    have high := congrArg highHalf same
    rw [exchange,highHalf_join] at high
    exact high.symm
  · intro same
    rw [exchange,← same]
    conv_rhs => rw [← join_halves value,← same]

theorem networkWord_differ (sender receiver : ByteOrder) (differ : sender ≠ receiver) (value : UInt64) :
    networkWord receiver (networkWord sender value) = exchange value := by
  cases sender with
  | little =>
    cases receiver with
    | little => exact absurd rfl differ
    | big => rfl
  | big =>
    cases receiver with
    | little => rfl
    | big => exact absurd rfl differ

/-- The four words survive exactly between hosts of one byte order, or when no
64-bit word changes as its halves are exchanged. -/
theorem transfer_restored_iff (sender receiver : ByteOrder) (header : RestRpcHeader) :
    Restored header (transfer sender receiver header) ↔
      sender = receiver ∨ HalvesAgree header.seqNum ∧ HalvesAgree header.bodyLen ∧
        HalvesAgree header.attachLength := by
  by_cases same : sender = receiver
  · subst same
    rw [transfer_same]
    exact ⟨fun _ => Or.inl rfl,fun _ => ⟨rfl,rfl,rfl,rfl⟩⟩
  · simp only [same,false_or,← exchange_eq_iff]
    rw [transfer_words]
    constructor
    · rintro ⟨_,seq,body,attach⟩
      simp only [networkWord_differ _ _ same] at seq body attach
      exact ⟨seq,body,attach⟩
    · rintro ⟨seq,body,attach⟩
      refine ⟨rfl,?_,?_,?_⟩
      · simpa only [networkWord_differ _ _ same] using seq
      · simpa only [networkWord_differ _ _ same] using body
      · simpa only [networkWord_differ _ _ same] using attach

/-- A one-octet body announced by a little-endian client reads as 2^32 octets on a
big-endian server. -/
theorem transfer_bodyLen_lost :
    ¬ Restored {bodyLen := 1} (transfer .little .big {bodyLen := 1}) := by
  intro restored
  have length := restored.bodyLen
  revert length
  decide

end RestRpc.CrossEnding
