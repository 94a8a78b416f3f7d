import RestRpc.Chunks
import RestRpc.Client

/-! Streams of frames in either direction, over any cut into chunks.
The two readers are the suspension-point segments of `start` and `wait_response`,
driven by exact reads; the allocator satisfies every length a string may have. -/
namespace RestRpc.Framing
open Chunks Protocol ErrorCode Codec Router Connection Client

inductive Request
  | call (functionId : UInt32) (body : Text)
  | subscribe (topicId : UInt32)
  deriving DecidableEq,Repr

/-- What `call_impl` writes for a request; `subscribe` passes it no arguments. -/
def Request.written (cfg : Config) : Request → List UInt8
  | call functionId body => callImpl cfg (callHeader functionId) body
  | subscribe topicId => callImpl cfg (subscribeHeader topicId) Text.empty

inductive Ending
  | headError (left : List (List UInt8))
  | bodyError
  | protocolError
  | threw
  | running
  deriving DecidableEq,Repr

/-- The read loop of `rpc_connection::start` over a stream: what it routed or
recorded, in order. One round reads one frame, so the fuel counts frames. -/
def start (cfg : Config) : Nat → List (List UInt8) → List Request × Ending
  | 0,_ => ([],.running)
  | fuel+1,chunks =>
    let proceed := fun request rest =>
      let (requests,ending) := start cfg fuel rest
      (request::requests,ending)
    match readExactly headerSize chunks with
    | none => ([],.headError chunks)
    | some (head,rest) =>
      match Connection.afterHead cfg (some head) true with
      | .readError => ([],.headError chunks)
      | .protocolError => ([],.protocolError)
      | .threw => ([],.threw)
      | .subscribed topicId => proceed (.subscribe topicId) rest
      | .route functionId body => proceed (.call functionId body) rest
      | .readBody header =>
        match readExactly header.bodyLen.toNat rest with
        | none => ([],.bodyError)
        | some (body,rest) =>
          match Connection.afterBody header (some body) with
          | .readError => ([],.bodyError)
          | .route functionId body => proceed (.call functionId body) rest

/-- A result the server writes; topic 0 marks a plain response. -/
structure Result where
  ec : RpcErrc
  payload : Text
  topicId : UInt32
  deriving DecidableEq,Repr

def Result.written (cfg : Config) (result : Result) : List UInt8 :=
  response cfg (packed result.ec result.payload) result.topicId

/-- What `wait_response` takes from one frame before it unpacks the payload. -/
structure Frame where
  ec : RpcErrc
  payload : Text
  msgType : UInt8
  functionId : UInt32
  deriving DecidableEq,Repr

def Result.frame (result : Result) : Frame where
  ec := result.ec
  payload := result.payload
  msgType := if result.topicId = 0 then 0 else 1
  functionId := result.topicId

def waitResponse (cfg : Config) (chunks : List (List UInt8)) : Option (Frame × List (List UInt8)) := do
  let (head,rest) ← readExactly headerSize chunks
  match Client.afterHead cfg (some head) true with
  | .readBody header =>
    let (body,rest) ← readExactly header.bodyLen.toNat rest
    let data ← payload header body
    return (⟨resultCode body,data,header.msgType,header.functionId⟩,rest)
  | _ => none

def waitResponses (cfg : Config) : Nat → List (List UInt8) → Option (List Frame × List (List UInt8))
  | 0,chunks => some ([],chunks)
  | count+1,chunks => do
    let (frame,rest) ← waitResponse cfg chunks
    let (frames,rest) ← waitResponses cfg count rest
    return (frame::frames,rest)

theorem afterHead_subscribe (cfg : Config) (topicId : UInt32) :
    Connection.afterHead cfg (some (Request.written cfg (.subscribe topicId))) true =
      .subscribed topicId := by
  simp [Request.written,callImpl,Connection.afterHead,subscribeHeader,Text.empty]

theorem afterHead_call (cfg : Config) (functionId : UInt32) (body : Text) :
    let header := (callHeader functionId).withBodyLen body.octets.length
    Connection.afterHead cfg (some (sentHeader cfg header)) true =
      if body.octets = [] then .route functionId Text.empty else .readBody header := by
  intro header
  have length := ofNat_length body.octets.length (by have := body.bound; omega)
  have positive : 0 < header.bodyLen ↔ body.octets ≠ [] := by
    rw [UInt64.lt_iff_toNat_lt,withBodyLen_bodyLen,length]
    exact List.length_pos_iff
  have fits : resizes header.bodyLen true = true := resizes_ofNat _ (Nat.le_of_lt body.bound)
  have magic : header.magic = restMagicNum := rfl
  have msgType : header.msgType = 0 := rfl
  by_cases nothing : body.octets = []
  · have short : ¬ 0 < header.bodyLen := fun more => positive.mp more nothing
    simp only [Connection.afterHead,receivedHeader_sent,magic,msgType,fits,short,nothing]
    rfl
  · simp [Connection.afterHead,magic,msgType,fits,positive.mpr nothing,nothing]

theorem start_request (cfg : Config) (request : Request) (fuel : Nat)
    (chunks : List (List UInt8)) (tail : List UInt8)
    (joined : chunks.flatten = request.written cfg ++ tail) :
    ∃ rest, rest.flatten = tail ∧ start cfg (fuel+1) chunks =
      (request::(start cfg fuel rest).1,(start cfg fuel rest).2) := by
  cases request with
  | subscribe topicId =>
    obtain ⟨rest,read,left⟩ := readExactly_some chunks _ tail joined
    have size : (Request.written cfg (.subscribe topicId)).length = headerSize := by
      simp [Request.written,callImpl,Text.empty]
    rw [size] at read
    refine ⟨rest,left,?_⟩
    simp only [start,read,afterHead_subscribe]
  | call functionId body =>
    rw [Request.written,callImpl,List.append_assoc] at joined
    obtain ⟨middle,readHead,left⟩ := readExactly_some chunks _ _ joined
    rw [sentHeader_length] at readHead
    have next := afterHead_call cfg functionId body
    by_cases nothing : body.octets = []
    · obtain rfl : body = Text.empty := Text.ext_octets nothing
      refine ⟨middle,by simpa [Text.empty] using left,?_⟩
      simp only [nothing,if_true] at next
      simp only [start,readHead,nothing,next]
    · obtain ⟨rest,readBody,left⟩ := readExactly_some middle _ _ left
      refine ⟨rest,left,?_⟩
      simp only [nothing,if_false] at next
      have length := ofNat_length body.octets.length (by have := body.bound; omega)
      simp only [start,readHead,next,withBodyLen_bodyLen,length,readBody,Connection.afterBody,
        Text.view_octets]
      rfl

theorem start_requests (cfg : Config) (requests : List Request) (fuel : Nat)
    (chunks : List (List UInt8)) (enough : requests.length < fuel)
    (joined : chunks.flatten = (requests.map (Request.written cfg)).flatten) :
    ∃ rest, rest.flatten = [] ∧ start cfg fuel chunks = (requests,.headError rest) := by
  induction requests generalizing fuel chunks with
  | nil =>
    obtain ⟨fuel,rfl⟩ : ∃ less, fuel = less+1 := ⟨fuel-1,by simp at enough; omega⟩
    have empty : chunks.flatten = [] := by simpa using joined
    have short : readExactly headerSize chunks = none :=
      readExactly_none _ _ (by simp [empty,headerSize])
    exact ⟨chunks,empty,by simp only [start,short]⟩
  | cons request requests ih =>
    obtain ⟨fuel,rfl⟩ : ∃ less, fuel = less+1 := ⟨fuel-1,by omega⟩
    obtain ⟨rest,left,round⟩ := start_request cfg request fuel chunks _ (by simpa using joined)
    obtain ⟨last,boundary,ended⟩ := ih fuel rest (by simpa using enough) left
    exact ⟨last,boundary,by rw [round,ended]⟩

theorem afterHead_response (cfg : Config) (ec : RpcErrc) (text : Text) (funcId : UInt32) :
    Client.afterHead cfg (some (sentHeader cfg (responseHeader (packed ec text) funcId))) true =
      .readBody (responseHeader (packed ec text) funcId) := by
  have fits : resizes (UInt64.ofNat (text.octets.length + 1)) true = true :=
    resizes_ofNat _ text.bound
  simp only [Client.afterHead,view_sent_magic,receivedHeader_sent,responseHeader_magic,
    responseHeader_bodyLen,packed_size,fits,ne_eq,not_true_eq_false,if_false,if_true]

theorem payload_response (ec : RpcErrc) (text : Text) (funcId : UInt32) :
    payload (responseHeader (packed ec text) funcId) (ec.octet::text.octets) = some text := by
  have bound := text.bound
  have less : (UInt64.ofNat (text.octets.length + 1) - 1).toNat = text.octets.length := by
    have whole := ofNat_length (text.octets.length + 1) (by omega)
    rw [UInt64.toNat_sub_of_le _ _ (by rw [UInt64.le_iff_toNat_le,whole]; simp),whole]
    simp
  simp only [payload,responseHeader_bodyLen,packed_size,less]
  simp [Nat.add_comm]

theorem waitResponse_result (cfg : Config) (result : Result) (chunks : List (List UInt8))
    (tail : List UInt8) (joined : chunks.flatten = result.written cfg ++ tail) :
    ∃ rest, rest.flatten = tail ∧ waitResponse cfg chunks = some (result.frame,rest) := by
  rw [Result.written,response_octets,packed_data,List.append_assoc] at joined
  obtain ⟨middle,readHead,left⟩ := readExactly_some chunks _ _ joined
  obtain ⟨rest,readBody,left⟩ := readExactly_some middle (_::_) tail left
  have length : (UInt64.ofNat (result.payload.octets.length + 1)).toNat = result.payload.octets.length + 1 :=
    ofNat_length _ (by have := result.payload.bound; omega)
  rw [sentHeader_length] at readHead
  rw [List.length_cons] at readBody
  refine ⟨rest,left,?_⟩
  simp only [waitResponse,readHead,Option.bind_eq_bind,Option.bind_some,afterHead_response,
    responseHeader_bodyLen,packed_size,length,readBody]
  simp [payload_response,resultCode,Result.frame]

theorem waitResponses_results (cfg : Config) (results : List Result) (chunks : List (List UInt8))
    (joined : chunks.flatten = (results.map (Result.written cfg)).flatten) :
    ∃ rest, rest.flatten = [] ∧
      waitResponses cfg results.length chunks = some (results.map Result.frame,rest) := by
  induction results generalizing chunks with
  | nil => exact ⟨chunks,by simpa using joined,rfl⟩
  | cons result results ih =>
    obtain ⟨middle,left,first⟩ := waitResponse_result cfg result chunks _ (by simpa using joined)
    obtain ⟨rest,boundary,others⟩ := ih middle left
    refine ⟨rest,boundary,?_⟩
    simp [waitResponses,first,others]

theorem requests_le_octets (cfg : Config) (requests : List Request) :
    requests.length ≤ (requests.map (Request.written cfg)).flatten.length := by
  induction requests with
  | nil => simp
  | cons request requests ih =>
    have nonempty : 0 < (request.written cfg).length := by
      cases request <;> simp [Request.written,callImpl,headerSize]
    simp only [List.map_cons,List.flatten_cons,List.length_append,List.length_cons]
    omega

/-- Ends that share a byte order and a `cross_ending` setting exchange any lists
of requests and of results exactly, however the stream is cut. -/
theorem streams_decode (cfg : Config) (requests : List Request) (results : List Result)
    (up down : List (List UInt8))
    (sent : up.flatten = (requests.map (Request.written cfg)).flatten)
    (answered : down.flatten = (results.map (Result.written cfg)).flatten) :
    (∃ rest, rest.flatten = [] ∧
      start cfg (up.flatten.length+1) up = (requests,.headError rest)) ∧
    (∃ rest, rest.flatten = [] ∧
      waitResponses cfg results.length down = some (results.map Result.frame,rest)) := by
  have enough : requests.length < up.flatten.length + 1 := by
    rw [sent]
    exact Nat.lt_succ_of_le (requests_le_octets cfg requests)
  exact ⟨start_requests cfg requests _ up enough sent,waitResponses_results cfg results down answered⟩

theorem streams_decode_cut :
    let cfg : Config := ⟨.big,true⟩
    let requests := [.subscribe 9,.call 5 (Text.view [97,98]),.call 6 Text.empty]
    let results := [⟨.ok,Text.view [120],9⟩,⟨.functionException,Text.empty,0⟩]
    let up := (requests.map (Request.written cfg)).flatten
    let down := (results.map (Result.written cfg)).flatten
    (∃ rest, rest.flatten = [] ∧
      start cfg ([up.take 33,up.drop 33].flatten.length+1) [up.take 33,up.drop 33] = (requests,.headError rest)) ∧
    (∃ rest, rest.flatten = [] ∧
      waitResponses cfg results.length [down.take 33,down.drop 33] = some (results.map Result.frame,rest)) := by
  intro cfg requests results up down
  exact streams_decode cfg requests results _ _
    (by rw [List.flatten_cons,List.flatten_cons,List.flatten_nil,List.append_nil,List.take_append_drop])
    (by rw [List.flatten_cons,List.flatten_cons,List.flatten_nil,List.append_nil,List.take_append_drop])

end RestRpc.Framing
