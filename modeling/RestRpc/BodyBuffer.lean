import RestRpc.Framing

/-! The strings that hold the bodies, `string_resize.hpp`. A connection and a client keep one `std::string` each:
they set its length, which clears nothing, and read the next body over what the last one and the allocator left. -/
namespace RestRpc.BodyBuffer
open Chunks Protocol ErrorCode Codec Router Connection Client Framing

/-- `storage` is the allocated memory, with room for a terminator. -/
structure StdString where
  storage : List UInt8
  size : Nat
  room : size < storage.length

structure Memory where
  allocate : Nat → List UInt8
  enough : ∀ capacity, capacity < (allocate capacity).length

namespace StdString

def capacity (str : StdString) : Nat := str.storage.length-1

def octets (str : StdString) : List UInt8 := str.storage.take str.size

/-- `detail::resize`: the content moves when the memory is too small, the length is set, and the terminator. -/
def resize (str : StdString) (memory : Memory) (sz : Nat) : StdString :=
  if grows : str.capacity < sz then
    {storage := (str.octets ++ (memory.allocate sz).drop str.size).set sz 0
     size := sz
     room := by
      have enough := memory.enough sz
      have small := str.room
      simp only [capacity] at grows
      simp only [octets,List.length_set,List.length_append,List.length_take,List.length_drop]
      omega}
  else
    {storage := str.storage.set sz 0
     size := sz
     room := by
      have small := str.room
      simp only [capacity] at grows
      rw [List.length_set]
      omega}

def fill (str : StdString) (read : List UInt8) : StdString where
  storage := read ++ str.storage.drop read.length
  size := str.size
  room := by
    have small := str.room
    rw [List.length_append,List.length_drop]
    omega

@[simp] theorem resize_size (str : StdString) (memory : Memory) (sz : Nat) : (str.resize memory sz).size = sz := by
  unfold resize
  split <;> rfl

@[simp] theorem fill_storage (str : StdString) (read : List UInt8) :
    (str.fill read).storage = read ++ str.storage.drop read.length := rfl

@[simp] theorem fill_size (str : StdString) (read : List UInt8) : (str.fill read).size = str.size := rfl

theorem resize_terminated (str : StdString) (memory : Memory) (sz : Nat) :
    (str.resize memory sz).storage[sz]? = some 0 := by
  have room := (str.resize memory sz).room
  rw [resize_size] at room
  unfold resize at room ⊢
  split
  · rename_i grows
    rw [dif_pos grows] at room
    rw [List.getElem?_set_self (by rwa [List.length_set] at room)]
  · rename_i fits
    rw [dif_neg fits] at room
    rw [List.getElem?_set_self (by rwa [List.length_set] at room)]

theorem fill_octets (str : StdString) (read : List UInt8) (whole : read.length = str.size) :
    (str.fill read).octets = read := by
  rw [octets,fill_size,fill_storage,← whole,List.take_left]

theorem fill_first (str : StdString) (memory : Memory) (read : List UInt8) :
    ((str.resize memory read.length).fill read).storage.headD 0 = read.headD 0 := by
  cases read with
  | nil =>
    have terminated := resize_terminated str memory 0
    rw [fill_storage,List.nil_append,List.length_nil,List.drop_zero,List.headD_eq_head?_getD,
      List.head?_eq_getElem?,terminated]
    rfl
  | cons first rest => rfl

end StdString

/-- The read loop of `rpc_connection::start` with its `body_`; each round may get other memory. -/
def start (cfg : Config) (memory : Nat → Memory) : Nat → StdString → List (List UInt8) → List Request × Ending
  | 0,_,_ => ([],.running)
  | fuel+1,body,chunks =>
    let proceed := fun request body rest =>
      let (requests,ending) := start cfg memory fuel body rest
      (request::requests,ending)
    match readExactly headerSize chunks with
    | none => ([],.headError chunks)
    | some (head,rest) =>
      let header := receivedHeader cfg head
      if header.magic ≠ restMagicNum then ([],.protocolError)
      else if header.msgType = 1 then proceed (.subscribe header.functionId) body rest
      else if !resizes header.bodyLen true then ([],.threw)
      else
        let body := body.resize (memory fuel) header.bodyLen.toNat
        if 0 < header.bodyLen then
          match readExactly header.bodyLen.toNat rest with
          | none => ([],.bodyError)
          | some (octets,rest) =>
            let body := body.fill octets
            proceed (.call header.functionId (Text.view body.octets)) body rest
        else proceed (.call header.functionId (Text.view body.octets)) body rest

def waitResponse (cfg : Config) (memory : Memory) (body : StdString) (chunks : List (List UInt8)) :
    Option (Frame × StdString × List (List UInt8)) := do
  let (head,rest) ← readExactly headerSize chunks
  match Client.afterHead cfg (some head) true with
  | .readBody header =>
    let body := body.resize memory header.bodyLen.toNat
    let (octets,rest) ← readExactly header.bodyLen.toNat rest
    let body := body.fill octets
    let data ← payload header body.octets
    return (⟨RpcErrc.ofOctet (body.storage.headD 0),data,header.msgType,header.functionId⟩,body,rest)
  | _ => none

def waitResponses (cfg : Config) (memory : Nat → Memory) :
    Nat → StdString → List (List UInt8) → Option (List Frame × List (List UInt8))
  | 0,_,chunks => some ([],chunks)
  | count+1,body,chunks => do
    let (frame,body,rest) ← waitResponse cfg (memory count) body chunks
    let (frames,rest) ← waitResponses cfg memory count body rest
    return (frame::frames,rest)

theorem readExactly_length (count : Nat) (chunks rest : List (List UInt8)) (octets : List UInt8)
    (read : readExactly count chunks = some (octets,rest)) : octets.length = count := by
  rcases Nat.lt_or_ge chunks.flatten.length count with short | enough
  · rw [readExactly_none count chunks short] at read
    cases read
  · obtain ⟨left,taken,-⟩ := readExactly_take count chunks enough
    cases taken.symm.trans read
    rw [List.length_take,Nat.min_eq_left enough]

theorem start_read (cfg : Config) (memory : Nat → Memory) (fuel : Nat) (body : StdString)
    (chunks : List (List UInt8)) : start cfg memory fuel body chunks = Framing.start cfg fuel chunks := by
  induction fuel generalizing body chunks with
  | zero => rfl
  | succ fuel ih =>
    rw [start,Framing.start]
    cases head : readExactly headerSize chunks with
    | none => rfl
    | some found =>
      obtain ⟨octets,rest⟩ := found
      simp only [Connection.afterHead,ih]
      generalize receivedHeader cfg octets = header
      by_cases magic : header.magic ≠ restMagicNum
      · simp only [if_pos magic]
      by_cases subscription : header.msgType = 1
      · simp only [if_neg magic,if_pos subscription]
      cases fits : resizes header.bodyLen true with
      | false => simp only [if_neg magic,if_neg subscription,Bool.not_false,if_true]
      | true =>
        by_cases positive : 0 < header.bodyLen
        · simp only [if_neg magic,if_neg subscription,Bool.not_true,Bool.false_eq_true,if_false,if_pos positive]
          cases read : readExactly header.bodyLen.toNat rest with
          | none => rfl
          | some taken =>
            have whole := readExactly_length _ _ _ _ read
            simp only [Connection.afterBody]
            rw [StdString.fill_octets _ _ (by rw [whole,StdString.resize_size])]
        · have zero : header.bodyLen.toNat = 0 := by
            rw [UInt64.lt_iff_toNat_lt] at positive
            simpa using positive
          have nothing : (body.resize (memory fuel) header.bodyLen.toNat).octets = [] := by
            rw [StdString.octets,StdString.resize_size,zero,List.take_zero]
          simp only [if_neg magic,if_neg subscription,Bool.not_true,Bool.false_eq_true,if_false,if_neg positive,nothing]
          rfl

theorem waitResponse_read (cfg : Config) (memory : Memory) (body : StdString) (chunks : List (List UInt8)) :
    (waitResponse cfg memory body chunks).map (fun (frame,_,rest) => (frame,rest)) =
      Framing.waitResponse cfg chunks := by
  rw [waitResponse,Framing.waitResponse]
  cases head : readExactly headerSize chunks with
  | none => rfl
  | some found =>
    obtain ⟨octets,rest⟩ := found
    simp only [Option.bind_eq_bind,Option.bind_some]
    cases next : Client.afterHead cfg (some octets) true with
    | readBody header =>
      cases read : readExactly header.bodyLen.toNat rest with
      | none => simp [read]
      | some taken =>
        obtain ⟨content,left⟩ := taken
        have whole := readExactly_length _ _ _ _ read
        have first := StdString.fill_first body memory content
        have same := StdString.fill_octets (body.resize memory header.bodyLen.toNat) content
          (by rw [whole,StdString.resize_size])
        rw [whole] at first
        simp only [read,Option.bind_some,same,first]
        cases payload header content <;> rfl
    | _ => rfl

theorem waitResponses_read (cfg : Config) (memory : Nat → Memory) (count : Nat) (body : StdString)
    (chunks : List (List UInt8)) :
    waitResponses cfg memory count body chunks = Framing.waitResponses cfg count chunks := by
  induction count generalizing body chunks with
  | zero => rfl
  | succ count ih =>
    have single := waitResponse_read cfg (memory count) body chunks
    rw [waitResponses,Framing.waitResponses,← single]
    cases waitResponse cfg (memory count) body chunks with
    | none => rfl
    | some found => simp only [Option.bind_eq_bind,Option.map_some,Option.bind_some,ih]

/-- Over any stream in any chunks, whatever the strings hold when the loops begin and whatever memory they are given
later: each end sees the bodies that were sent and nothing that was in the string before, as if each had a string of
its own. -/
theorem bodies_read (cfg : Config) (memory : Nat → Memory) (frames : Nat) (body : StdString)
    (chunks : List (List UInt8)) :
    start cfg memory frames body chunks = Framing.start cfg frames chunks ∧
      waitResponses cfg memory frames body chunks = Framing.waitResponses cfg frames chunks :=
  ⟨start_read cfg memory frames body chunks,waitResponses_read cfg memory frames body chunks⟩

end RestRpc.BodyBuffer
