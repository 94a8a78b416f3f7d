import RestRpc.Call
import RestRpc.Session

/-! What the client may find on a stream: frames that wait, the rest of a frame whose header it has
read, or nothing; and what writes of the server and reads of the client make of it. -/
namespace RestRpc.Awaited
open Protocol ErrorCode Codec Router Connection Client Framing Call Session

variable {env : TypeEnv}

def header (item : Sent) : RestRpcHeader :=
  responseHeader (packed item.result.ec item.result.payload) item.result.topicId

def body (item : Sent) : List UInt8 := item.result.ec.octet::item.result.payload.octets

def frames (cfg : Config) (queue : List Sent) : List UInt8 :=
  (queue.map fun item => item.result.written cfg).flatten

theorem written_eq (cfg : Config) (item : Sent) :
    item.result.written cfg = sentHeader cfg (header item) ++ body item := by
  simp [Result.written,header,body,response_octets]

@[simp] theorem frames_nil (cfg : Config) : frames cfg [] = [] := rfl

theorem frames_cons (cfg : Config) (item : Sent) (queue : List Sent) :
    frames cfg (item::queue) = sentHeader cfg (header item) ++ (body item ++ frames cfg queue) := by
  simp [frames,written_eq]

theorem frames_append (cfg : Config) (queue : List Sent) (item : Sent) :
    frames cfg (queue ++ [item]) = frames cfg queue ++ item.result.written cfg := by
  simp [frames]

theorem bodyLen_header (item : Sent) : (header item).bodyLen.toNat = (body item).length := by
  have bound := item.result.payload.bound
  simp only [header,body,responseHeader_bodyLen,packed_size,List.length_cons]
  exact ofNat_length _ (by omega)

theorem afterHead_frame (cfg : Config) (item : Sent) (allocated : Bool) :
    Client.afterHead cfg (some (sentHeader cfg (header item))) allocated =
      if allocated then .readBody (header item) else .threw := by
  cases allocated with
  | true => exact afterHead_response cfg _ _ _
  | false => simp [Client.afterHead,header,resizes]

theorem afterBody_frame (sp : StructPack env) (R : ReturnType env) (item : Sent) (result : CallResult R)
    (returned : Client.afterBody sp R (header item) (some (body item)) = .returned result) :
    decoded sp item.result.ec item.result.payload R = .returned result := by
  cases R with
  | none => simpa [Client.afterBody,resultCode,body,decoded] using returned
  | some type =>
    simp only [Client.afterBody,header,body,payload_response,decoded] at returned ⊢
    cases decodes : unpack sp type item.result.payload with
    | error what => simp [decodes] at returned
    | ok value => simpa [decodes,resultCode] using returned

/-- A stream at rest: nothing to be answered, and only publications left to read. -/
structure Resting (cfg : Config) (stream : Stream) : Prop where
  settled : stream.unanswered = []
  publications : ∀ item ∈ stream.queue, item.isPublication = true
  down : stream.down = frames cfg stream.queue

/-- A stream that has nothing for a call, and never will. -/
structure Silent (request : Nat) (stream : Stream) : Prop where
  settled : stream.unanswered = []
  foreign : request ∉ stream.answered
  queue : stream.queue = []
  down : stream.down = []

/-- A stream behind a header that was read: the rest of that frame comes first. -/
structure Behind (cfg : Config) (item : Sent) (header : RestRpcHeader) (stream : Stream) : Prop where
  header : header = Awaited.header item
  settled : stream.unanswered = []
  publications : ∀ item ∈ stream.queue, item.isPublication = true
  down : stream.down = body item ++ frames cfg stream.queue

/-- A stream on which a call's response is to come first, or nothing at all. -/
inductive Awaiting (cfg : Config) (answers : List (Nat × RpcErrc × Text)) (request : Nat)
    (stream : Stream) : Prop
  | unanswered (sent : stream.unanswered = [request]) (fresh : request ∉ stream.answered)
      (queue : stream.queue = []) (down : stream.down = [])
  | answered (ec : RpcErrc) (text : Text) (queue : List Sent) (settled : stream.unanswered = [])
      (first : stream.queue = .reply request ec text::queue)
      (publications : ∀ item ∈ queue, item.isPublication = true)
      (down : stream.down = frames cfg stream.queue) (answer : (request,ec,text) ∈ answers)
  | silent (silent : Silent request stream)

/-- A stream from which a call reads the body that belongs to a header. -/
inductive Arriving (cfg : Config) (answers : List (Nat × RpcErrc × Text)) (request : Nat)
    (header : RestRpcHeader) (stream : Stream) : Prop
  | behind (ec : RpcErrc) (text : Text) (answer : (request,ec,text) ∈ answers)
      (behind : Behind cfg (.reply request ec text) header stream)
  | silent (silent : Silent request stream) (more : 0 < header.bodyLen.toNat)

theorem Silent.resting {cfg : Config} {request : Nat} {stream : Stream} (silent : Silent request stream) :
    Resting cfg stream where
  settled := silent.settled
  publications item member := by simp [silent.queue] at member
  down := by simp [silent.queue,silent.down]

theorem Resting.publish {cfg : Config} {stream : Stream} (resting : Resting cfg stream) (topicId : UInt32)
    (text : Text) : Resting cfg (stream.write cfg (.publication topicId text)) where
  settled := resting.settled
  publications item member := by
    rcases List.mem_append.mp member with old | new
    · exact resting.publications item old
    · cases List.mem_singleton.mp new
      rfl
  down := by simp [Stream.write,frames_append,resting.down]

theorem Behind.publish {cfg : Config} {item : Sent} {header : RestRpcHeader} {stream : Stream}
    (behind : Behind cfg item header stream) (topicId : UInt32) (text : Text) :
    Behind cfg item header (stream.write cfg (.publication topicId text)) where
  header := behind.header
  settled := behind.settled
  publications item member := by
    rcases List.mem_append.mp member with old | new
    · exact behind.publications item old
    · cases List.mem_singleton.mp new
      rfl
  down := by simp [Stream.write,frames_append,behind.down]

theorem Awaiting.publish {cfg : Config} {answers : List (Nat × RpcErrc × Text)} {request : Nat}
    {stream : Stream} (awaiting : Awaiting cfg answers request stream) (topicId : UInt32) (text : Text)
    (written : request ∈ stream.answered) :
    Awaiting cfg answers request (stream.write cfg (.publication topicId text)) := by
  cases awaiting with
  | unanswered _ fresh => exact absurd written fresh
  | silent silent => exact absurd written silent.foreign
  | answered ec reply queue settled first publications down answer =>
    refine .answered ec reply (queue ++ [.publication topicId text]) settled (by simp [Stream.write,first])
      (fun item member => ?_) (by simp [Stream.write,frames_append,down]) answer
    rcases List.mem_append.mp member with old | new
    · exact publications item old
    · cases List.mem_singleton.mp new
      rfl

theorem Arriving.publish {cfg : Config} {answers : List (Nat × RpcErrc × Text)} {request : Nat}
    {header : RestRpcHeader} {stream : Stream} (arriving : Arriving cfg answers request header stream)
    (topicId : UInt32) (text : Text) (written : request ∈ stream.answered) :
    Arriving cfg answers request header (stream.write cfg (.publication topicId text)) := by
  cases arriving with
  | behind ec reply answer behind => exact .behind ec reply answer (behind.publish topicId text)
  | silent silent => exact absurd written silent.foreign

theorem Awaiting.answer {cfg : Config} {answers : List (Nat × RpcErrc × Text)} {request answered : Nat}
    {stream : Stream} (awaiting : Awaiting cfg answers request stream) (ec : RpcErrc) (text : Text)
    (waits : answered ∈ stream.unanswered) :
    Awaiting cfg ((answered,ec,text)::answers) request (stream.answer cfg answered ec text) := by
  cases awaiting with
  | unanswered sent fresh queue down =>
    obtain rfl : answered = request := by simpa [sent] using waits
    exact .answered ec text [] (by simp [Stream.answer,sent]) (by simp [Stream.answer,Stream.write,queue])
      (by simp) (by simp [Stream.answer,Stream.write,queue,down,frames]) List.mem_cons_self
  | answered _ _ _ settled => simp [settled] at waits
  | silent silent => simp [silent.settled] at waits

theorem Awaiting.readHead {cfg : Config} {answers : List (Nat × RpcErrc × Text)} {request : Nat}
    {stream : Stream} (awaiting : Awaiting cfg answers request stream)
    (enough : headerSize ≤ stream.down.length) :
    ∃ ec text, (request,ec,text) ∈ answers ∧ stream.queue.head? = some (.reply request ec text) ∧
      stream.down.take headerSize = sentHeader cfg (header (.reply request ec text)) ∧
      Behind cfg (.reply request ec text) (header (.reply request ec text)) stream.readHead := by
  cases awaiting with
  | unanswered _ _ _ down => simp [down,headerSize] at enough
  | silent silent => simp [silent.down,headerSize] at enough
  | answered ec text queue settled first publications down answer =>
    rw [first,frames_cons] at down
    refine ⟨ec,text,answer,by rw [first]; rfl,?_,rfl,settled,?_,?_⟩
    · rw [down,← sentHeader_length cfg (header (.reply request ec text)),List.take_left]
    · simpa [Stream.readHead,first] using publications
    · simp only [Stream.readHead,first,List.drop_one,List.tail_cons]
      rw [down,← sentHeader_length cfg (header (.reply request ec text)),List.drop_left]

theorem Resting.readHead {cfg : Config} {stream : Stream} (resting : Resting cfg stream)
    (enough : headerSize ≤ stream.down.length) :
    ∃ item, stream.down.take headerSize = sentHeader cfg (header item) ∧
      Behind cfg item (header item) stream.readHead := by
  have down := resting.down
  cases first : stream.queue with
  | nil => simp [down,first,headerSize] at enough
  | cons item queue =>
    have publications := resting.publications
    rw [first,frames_cons] at down
    refine ⟨item,?_,rfl,resting.settled,?_,?_⟩
    · rw [down,← sentHeader_length cfg (header item),List.take_left]
    · intro other member
      exact publications other (by simpa [Stream.readHead] using List.mem_of_mem_drop member)
    · simp only [Stream.readHead,first,List.drop_one,List.tail_cons]
      rw [down,← sentHeader_length cfg (header item),List.drop_left]

theorem Behind.readBody {cfg : Config} {item : Sent} {length : RestRpcHeader} {stream : Stream}
    (behind : Behind cfg item length stream) :
    stream.down.take length.bodyLen.toNat = body item ∧
      Resting cfg (stream.readBody length.bodyLen.toNat) := by
  obtain ⟨rfl,settled,publications,down⟩ := behind
  rw [bodyLen_header]
  refine ⟨by rw [down,List.take_left],settled,publications,?_⟩
  simp only [Stream.readBody]
  rw [down,List.drop_left]

end RestRpc.Awaited
