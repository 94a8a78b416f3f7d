import RestRpc.Feed
import RestRpc.IntegerTuples

/-! The messages of a feed in order: what the client still finds on the stream is what it has not
returned, and all of it is returned once nothing else can happen. -/
namespace RestRpc.FeedOrder
open Automaton Protocol ErrorCode Codec Framing Pipes IntegerTuples Feed
open Connection hiding afterHead afterBody
open Client hiding afterHead afterBody
open Session (Sent Completion)

variable {env : TypeEnv} (setting : Setting env)

def left {type : CppType env} (state : State type) : List (type.Value × Text) :=
  state.published.drop state.results.length

def sent (entry : setting.type.Value × Text) : Sent := .publication setting.topicId entry.2

def frames (entries : List (setting.type.Value × Text)) : List UInt8 :=
  Awaited.frames setting.cfg (entries.map (sent setting))

def received {type : CppType env} (message : type.Value) : CallResult (some type) :=
  {ec := .ok,value := some message}

/-- What the connection knows of the topic, and what is still on the way to it. -/
inductive Announcing (state : State setting.type) : Prop
  | fresh (idle : state.op = .idle) (unlisted : state.subOps = []) (quiet : state.up.content = [])
      (unknown : state.topicId = 0) (first : state.calls = 0)
  | underway (listed : state.subOps = [setting.topicId])
      (request : state.up.content = Request.written setting.cfg (.subscribe setting.topicId))
      (unknown : state.topicId = 0)
  | heard (listed : state.subOps = [setting.topicId]) (quiet : state.up.content = [])
      (known : state.topicId = setting.topicId)

/-- What the client finds on the stream, by the point of its subscribe. -/
def Arriving (entries : List (setting.type.Value × Text)) (content : List UInt8) (completed : Bool) :
    Op setting.type → Prop
  | .readBody header => ∃ entry rest, entries = entry::rest ∧
      header = Awaited.header (sent setting entry) ∧
      content = Awaited.body (sent setting entry) ++ frames setting rest
  | .done result => completed = true ∧ ∃ entry rest, entries = entry::rest ∧
      result = received entry.1 ∧ content = frames setting rest
  | .threw => False
  | _ => content = frames setting entries

def running {type : CppType env} : Op type → Nat
  | .idle => 0
  | _ => 1

structure Tracked (state : State setting.type) : Prop where
  announcing : Announcing setting state
  arriving : Arriving setting (left state) state.down.content state.completed state.op
  packs : ∀ entry ∈ state.published,
    packArgs setting.sp setting.passing setting.type entry.1 = .ok entry.2
  inOrder : state.results = (state.published.take state.results.length).map fun entry => received entry.1
  calls : state.calls = state.results.length + running state.op

theorem tracked_initial : Tracked setting {} where
  announcing := .fresh rfl rfl rfl rfl rfl
  arriving := rfl
  packs _ member := by cases member
  inOrder := rfl
  calls := rfl

variable {setting : Setting env}

theorem Tracked.bound {state : State setting.type} (tracked : Tracked setting state) :
    state.results.length ≤ state.published.length := by
  have same := congrArg List.length tracked.inOrder
  simp only [List.length_map,List.length_take] at same
  omega

theorem Tracked.packs_left {state : State setting.type} (tracked : Tracked setting state)
    {entry : setting.type.Value × Text} {rest : List (setting.type.Value × Text)}
    (split : left state = entry::rest) :
    packArgs setting.sp setting.passing setting.type entry.1 = .ok entry.2 := by
  apply tracked.packs
  apply List.mem_of_mem_drop (i := state.results.length)
  rw [show state.published.drop state.results.length = entry::rest from split]
  exact List.mem_cons_self

theorem frames_cons (entry : setting.type.Value × Text) (rest : List (setting.type.Value × Text)) :
    frames setting (entry::rest) = sentHeader setting.cfg (Awaited.header (sent setting entry)) ++
      (Awaited.body (sent setting entry) ++ frames setting rest) :=
  Awaited.frames_cons setting.cfg (sent setting entry) (rest.map (sent setting))

theorem frames_append (entries : List (setting.type.Value × Text)) (message : setting.type.Value)
    (text : Text) : frames setting (entries ++ [(message,text)]) =
      frames setting entries ++ response setting.cfg (packed .ok text) setting.topicId := by
  rw [frames,List.map_append]
  exact Awaited.frames_append setting.cfg (entries.map (sent setting)) _

theorem Arriving.append {entries : List (setting.type.Value × Text)} {content : List UInt8}
    {completed : Bool} {op : Op setting.type} (arriving : Arriving setting entries content completed op)
    (message : setting.type.Value) (text : Text) :
    Arriving setting (entries ++ [(message,text)])
      (content ++ response setting.cfg (packed .ok text) setting.topicId) completed op := by
  cases op with
  | readBody header =>
    obtain ⟨entry,rest,rfl,same,rfl⟩ := arriving
    exact ⟨entry,rest ++ [(message,text)],rfl,same,by rw [frames_append,List.append_assoc]⟩
  | done result =>
    obtain ⟨completed,entry,rest,rfl,same,rfl⟩ := arriving
    exact ⟨completed,entry,rest ++ [(message,text)],rfl,same,(frames_append ..).symm⟩
  | threw => exact arriving
  | _ =>
    have arriving : content = frames setting entries := arriving
    subst arriving
    exact (frames_append ..).symm

theorem Tracked.publish {state : State setting.type} (tracked : Tracked setting state)
    (message : setting.type.Value) (text : Text)
    (packs : packArgs setting.sp setting.passing setting.type message = .ok text) :
    Tracked setting (publish setting state message text) := by
  unfold Feed.publish
  split
  · have bound := tracked.bound
    constructor
    case announcing =>
      obtain ⟨idle,unlisted,quiet,unknown,first⟩ | ⟨listed,request,unknown⟩ | ⟨listed,quiet,known⟩ :=
        tracked.announcing
      · exact .fresh idle unlisted quiet unknown first
      · exact .underway listed request unknown
      · exact .heard listed quiet known
    case arriving =>
      have more : left {state with
          down := state.down.start (response setting.cfg (packed .ok text) setting.topicId)
          published := state.published ++ [(message,text)]} = left state ++ [(message,text)] :=
        List.drop_append_of_le_length bound
      rw [more,Pipe.content_start]
      exact tracked.arriving.append message text
    case packs =>
      intro entry member
      rcases List.mem_append.mp member with old | new
      · exact tracked.packs entry old
      · cases List.mem_singleton.mp new
        exact packs
    case inOrder =>
      rw [List.take_append_of_le_length bound]
      exact tracked.inOrder
    case calls => exact tracked.calls
  · exact tracked

theorem Tracked.subscribe {state : State setting.type} (tracked : Tracked setting state)
    (point : state.op = .idle) : Tracked setting (subscribe setting state) := by
  have resting := tracked.arriving
  have calls := tracked.calls
  rw [point] at resting calls
  unfold Feed.subscribe
  split
  · rename_i listed
    refine ⟨?_,resting,tracked.packs,tracked.inOrder,congrArg (·+1) calls⟩
    obtain ⟨-,unlisted,-,-,-⟩ | ⟨listed,request,unknown⟩ | ⟨listed,quiet,known⟩ := tracked.announcing
    · simp [unlisted] at listed
    · exact .underway listed request unknown
    · exact .heard listed quiet known
  · rename_i unlisted
    refine ⟨?_,resting,tracked.packs,tracked.inOrder,congrArg (·+1) calls⟩
    obtain ⟨-,empty,quiet,unknown,-⟩ | ⟨listed,-,-⟩ | ⟨listed,-,-⟩ := tracked.announcing
    · exact .underway (by rw [empty]) (by rw [Pipe.content_start,quiet,List.nil_append]) unknown
    · simp [listed] at unlisted
    · simp [listed] at unlisted

theorem Tracked.serve {state : State setting.type} (tracked : Tracked setting state) (topicId : UInt32)
    (enough : headerSize ≤ state.up.arrived.length)
    (read : Connection.afterHead setting.cfg (some (state.up.arrived.take headerSize)) true =
      .subscribed topicId) :
    Tracked setting {state with up := state.up.read headerSize,topicId := topicId} := by
  have size : (Request.written setting.cfg (.subscribe setting.topicId)).length = headerSize := by
    simp [Request.written,callImpl,Text.empty]
  have less : headerSize ≤ state.up.content.length := by
    simp only [Pipe.content,List.length_append]
    omega
  refine ⟨?_,tracked.arriving,tracked.packs,tracked.inOrder,tracked.calls⟩
  obtain ⟨-,-,quiet,-,-⟩ | ⟨listed,request,unknown⟩ | ⟨-,quiet,-⟩ := tracked.announcing
  · simp [quiet,headerSize] at less
  · have whole : state.up.arrived.take headerSize = Request.written setting.cfg (.subscribe setting.topicId) := by
      rw [← Pipe.take_content _ _ enough,request,List.take_of_length_le (Nat.le_of_eq size)]
    rw [whole,afterHead_subscribe] at read
    cases read
    refine .heard listed ?_ rfl
    rw [Pipe.content_read _ _ enough,request,List.drop_of_length_le (Nat.le_of_eq size)]
  · simp [quiet,headerSize] at less

theorem Announcing.keep {state next : State setting.type} (announcing : Announcing setting state)
    (busy : state.op ≠ .idle) (subOps : next.subOps = state.subOps) (up : next.up = state.up)
    (topicId : next.topicId = state.topicId) : Announcing setting next := by
  obtain ⟨idle,-,-,-,-⟩ | ⟨listed,request,unknown⟩ | ⟨listed,quiet,known⟩ := announcing
  · exact absurd idle busy
  · exact .underway (by rw [subOps,listed]) (by rw [up,request]) (by rw [topicId,unknown])
  · exact .heard (by rw [subOps,listed]) (by rw [up,quiet]) (by rw [topicId,known])

/-- The octets that a client reads next are those of the first message left. -/
theorem afterHead_left {state : State setting.type} (enough : headerSize ≤ state.down.arrived.length)
    (waiting : state.down.content = frames setting (left state)) :
    ∃ entry rest, left state = entry::rest ∧
      afterHead setting state = some {state with
        down := state.down.read headerSize
        op := .readBody (Awaited.header (sent setting entry))} ∧
      (state.down.read headerSize).content = Awaited.body (sent setting entry) ++ frames setting rest := by
  have front := Pipe.take_content _ _ enough
  have behind := Pipe.content_read _ _ enough
  rw [waiting] at front behind
  cases split : left state with
  | nil =>
    rw [split] at front
    have nothing : state.down.arrived.take headerSize = [] := front.symm
    rw [← List.length_eq_zero_iff,List.length_take,headerSize] at nothing
    rw [headerSize] at enough
    omega
  | cons entry rest =>
    have size := sentHeader_length setting.cfg (Awaited.header (sent setting entry))
    rw [split,frames_cons,← size] at front behind
    rw [List.take_left] at front
    rw [List.drop_left] at behind
    refine ⟨entry,rest,rfl,?_,by rw [← behind,size]⟩
    unfold afterHead
    rw [← size,← front,Awaited.afterHead_frame]
    rfl

/-- The body that follows is the message, and its frame completes the subscription. -/
theorem afterBody_left {state : State setting.type} (nonzero : setting.topicId ≠ 0)
    (entry : setting.type.Value × Text) (rest : List (setting.type.Value × Text))
    (enough : (Awaited.header (sent setting entry)).bodyLen.toNat ≤ state.down.arrived.length)
    (waiting : state.down.content = Awaited.body (sent setting entry) ++ frames setting rest)
    (decodes : unpack setting.sp setting.type entry.2 = .ok entry.1) :
    afterBody setting state (Awaited.header (sent setting entry)) = some {state with
      down := state.down.read (Awaited.header (sent setting entry)).bodyLen.toNat
      op := .done (received entry.1)
      completed := true} ∧
    (state.down.read (Awaited.header (sent setting entry)).bodyLen.toNat).content = frames setting rest := by
  have front := Pipe.take_content _ _ enough
  have behind := Pipe.content_read _ _ enough
  rw [waiting,Awaited.bodyLen_header] at front behind
  rw [List.take_left] at front
  rw [List.drop_left] at behind
  refine ⟨?_,by rw [Awaited.bodyLen_header,behind]⟩
  have result : Client.afterBody setting.sp (some setting.type) (Awaited.header (sent setting entry))
      (some (Awaited.body (sent setting entry))) = .returned (received entry.1) := by
    have view : payload (Awaited.header (sent setting entry)) (Awaited.body (sent setting entry)) = some entry.2 :=
      payload_response .ok entry.2 setting.topicId
    simp only [Client.afterBody,view,decodes]
    simp [resultCode,Awaited.body,sent,Sent.result,received]
  have topic : (Awaited.header (sent setting entry)).msgType = 1 ∧
      (Awaited.header (sent setting entry)).functionId = setting.topicId := by
    simp [Awaited.header,sent,Sent.result,nonzero]
  simp only [afterBody,Awaited.bodyLen_header,← front,result,topic]
  simp [Completion.covers]

theorem Tracked.head {state next : State setting.type} (tracked : Tracked setting state)
    (point : state.op = .readHead) (enough : headerSize ≤ state.down.arrived.length)
    (read : afterHead setting state = some next) : Tracked setting next := by
  have waiting := tracked.arriving
  have calls := tracked.calls
  rw [point] at waiting calls
  obtain ⟨entry,rest,split,same,behind⟩ := afterHead_left enough waiting
  cases read.symm.trans same
  exact ⟨tracked.announcing.keep (by simp [point]) rfl rfl rfl,⟨entry,rest,split,rfl,behind⟩,
    tracked.packs,tracked.inOrder,calls⟩

theorem Tracked.body {state next : State setting.type} (tracked : Tracked setting state)
    (nonzero : setting.topicId ≠ 0)
    (undoes : ∀ message text, packArgs setting.sp setting.passing setting.type message = .ok text →
      unpack setting.sp setting.type text = .ok message)
    (header : RestRpcHeader) (point : state.op = .readBody header)
    (enough : header.bodyLen.toNat ≤ state.down.arrived.length)
    (read : afterBody setting state header = some next) : Tracked setting next := by
  have waiting := tracked.arriving
  have calls := tracked.calls
  rw [point] at waiting calls
  obtain ⟨entry,rest,split,rfl,waiting⟩ := waiting
  have decodes := undoes entry.1 entry.2 (tracked.packs_left split)
  obtain ⟨same,behind⟩ := afterBody_left nonzero entry rest enough waiting decodes
  cases read.symm.trans same
  exact ⟨tracked.announcing.keep (by simp [point]) rfl rfl rfl,⟨rfl,entry,rest,split,rfl,behind⟩,
    tracked.packs,tracked.inOrder,calls⟩

theorem Tracked.ret {state : State setting.type} (tracked : Tracked setting state)
    (result : CallResult (some setting.type)) (point : state.op = .done result) :
    Tracked setting {state with op := .idle,results := state.results ++ [result]} := by
  have waiting := tracked.arriving
  have calls := tracked.calls
  rw [point] at waiting calls
  obtain ⟨-,entry,rest,split,rfl,behind⟩ := waiting
  have next : state.published[state.results.length]? = some entry := by
    have first := congrArg List.head? split
    simpa [left,List.head?_drop] using first
  constructor
  case announcing =>
    obtain ⟨idle,-,-,-,-⟩ | ⟨listed,request,unknown⟩ | ⟨listed,quiet,known⟩ := tracked.announcing
    · simp [point] at idle
    · exact .underway listed request unknown
    · exact .heard listed quiet known
  case arriving =>
    have rest : left {state with op := .idle,results := state.results ++ [received entry.1]} = rest := by
      have tail := congrArg List.tail split
      simpa [left,List.tail_drop] using tail
    rw [rest]
    exact behind
  case packs => exact tracked.packs
  case inOrder =>
    rw [List.length_append,List.length_singleton,List.take_add_one,next,List.map_append]
    exact congrArg (· ++ _) tracked.inOrder
  case calls =>
    rw [List.length_append,List.length_singleton]
    exact calls

theorem Tracked.moves {state : State setting.type} (tracked : Tracked setting state) (up down : Pipe UInt8)
    (sameUp : up.content = state.up.content) (sameDown : down.content = state.down.content) :
    Tracked setting {state with up := up,down := down} := by
  refine ⟨?_,?_,tracked.packs,tracked.inOrder,tracked.calls⟩
  · obtain ⟨idle,unlisted,quiet,unknown,first⟩ | ⟨listed,request,unknown⟩ | ⟨listed,quiet,known⟩ :=
      tracked.announcing
    · exact .fresh idle unlisted (sameUp.trans quiet) unknown first
    · exact .underway listed (sameUp.trans request) unknown
    · exact .heard listed (sameUp.trans quiet) known
  · rw [show ({state with up := up,down := down} : State setting.type).down.content = _ from sameDown]
    exact tracked.arriving

theorem tracked_step (nonzero : setting.topicId ≠ 0)
    (undoes : ∀ message text, packArgs setting.sp setting.passing setting.type message = .ok text →
      unpack setting.sp setting.type text = .ok message)
    (state : State setting.type) (event : Event setting.type) (next : State setting.type)
    (tracked : Tracked setting state) (taken : step setting state event = some next) :
    Tracked setting next := by
  cases step_cases setting state next event taken with
  | publish message text packs => exact tracked.publish message text packs
  | subscribe point => exact tracked.subscribe point
  | wrote point =>
    have waiting := tracked.arriving
    have calls := tracked.calls
    rw [point] at waiting calls
    exact ⟨tracked.announcing.keep (by simp [point]) rfl rfl rfl,waiting,tracked.packs,tracked.inOrder,calls⟩
  | sendUp n => exact tracked.moves _ _ (Pipe.content_send ..) rfl
  | deliverUp n => exact tracked.moves _ _ (Pipe.content_deliver ..) rfl
  | serve topicId enough read => exact tracked.serve topicId enough read
  | sendDown n => exact tracked.moves _ _ rfl (Pipe.content_send ..)
  | deliverDown n => exact tracked.moves _ _ rfl (Pipe.content_deliver ..)
  | head _ point enough read => exact tracked.head point enough read
  | body _ header point enough read => exact tracked.body nonzero undoes header point enough read
  | ret result point => exact tracked.ret result point

def rank {type : CppType env} : Op type → Nat
  | .writing => 4
  | .readHead => 3
  | .readBody _ => 2
  | .done _ => 1
  | _ => 0

def weight {type : CppType env} (state : State type) : Nat :=
  state.up.weight + state.down.weight + rank state.op

theorem internal_lower (state : State setting.type) (event : Event setting.type) (next : State setting.type)
    (internal : Internal event) (taken : step setting state event = some next) :
    weight next < weight state := by
  unfold weight
  cases step_cases setting state next event taken with
  | publish => exact internal.elim
  | subscribe => exact internal.elim
  | wrote point => simp [point,rank]
  | sendUp n more fits =>
    have less := Pipe.weight_send state.up n more fits
    dsimp only
    omega
  | deliverUp n more fits =>
    have less := Pipe.weight_deliver state.up n more fits
    dsimp only
    omega
  | serve _ enough =>
    have less := Pipe.weight_read state.up headerSize enough
    rw [headerSize] at less
    dsimp only [headerSize]
    omega
  | sendDown n more fits =>
    have less := Pipe.weight_send state.down n more fits
    dsimp only
    omega
  | deliverDown n more fits =>
    have less := Pipe.weight_deliver state.down n more fits
    dsimp only
    omega
  | head _ point enough read =>
    have less := Pipe.weight_read state.down headerSize enough
    unfold afterHead at read
    dsimp only at read
    split at read
    · cases read
    · cases read
      simp only [point,rank]
      omega
    · cases read
      simp only [point,rank]
      omega
    · cases read
      simp only [point,rank]
      omega
  | body _ header point enough read =>
    have less := Pipe.weight_read state.down header.bodyLen.toNat enough
    unfold afterBody at read
    dsimp only at read
    split at read
    · cases read
    · cases read
    · cases read
      simp only [point,rank]
      omega
    · cases read
      simp only [point,rank]
      omega
  | ret result point => simp [point,rank]

/-- Nothing is left that happens by itself. -/
def Settled (state : State setting.type) : Prop :=
  ∀ event, Internal event → step setting state event = none

theorem Settled.still {state : State setting.type} (settled : Settled state) :
    state.up.writing = [] ∧ state.up.arrived = state.up.content ∧ state.down.arrived = state.down.content := by
  have refused {enabled : Prop} [Decidable enabled] {next : State setting.type}
      (stuck : (if enabled then some next else none) = none) : ¬enabled := by
    intro able
    rw [if_pos able] at stuck
    cases stuck
  have empty {octets : List UInt8} (short : ¬(0 < 1 ∧ 1 ≤ octets.length)) : octets = [] := by
    apply List.length_eq_zero_iff.mp
    omega
  have written := empty (refused (settled (.sendUp 1) trivial))
  refine ⟨written,?_,?_⟩
  · exact Pipe.arrived_of_settled _ written (empty (refused (settled (.deliverUp 1) trivial)))
  · exact Pipe.arrived_of_settled _ (empty (refused (settled (.sendDown 1) trivial)))
      (empty (refused (settled (.deliverDown 1) trivial)))

theorem Settled.heard {state : State setting.type} (settled : Settled state) (tracked : Tracked setting state)
    (begun : 0 < state.calls) : state.topicId = setting.topicId := by
  obtain ⟨-,-,-,-,first⟩ | ⟨-,request,-⟩ | ⟨-,-,known⟩ := tracked.announcing
  · omega
  · have whole : state.up.arrived = Request.written setting.cfg (.subscribe setting.topicId) :=
      settled.still.2.1.trans request
    have size : (Request.written setting.cfg (.subscribe setting.topicId)).length = headerSize := by
      simp [Request.written,callImpl,Text.empty]
    have stuck := settled .serve trivial
    rw [step,whole,if_pos (Nat.le_of_eq size.symm),List.take_of_length_le (Nat.le_of_eq size),
      afterHead_subscribe] at stuck
    cases stuck
  · exact known

theorem Settled.served {state : State setting.type} (settled : Settled state) (tracked : Tracked setting state)
    (nonzero : setting.topicId ≠ 0)
    (undoes : ∀ message text, packArgs setting.sp setting.passing setting.type message = .ok text →
      unpack setting.sp setting.type text = .ok message) :
    state.results.length = min state.calls state.published.length := by
  have bound := tracked.bound
  have calls := tracked.calls
  have waiting := tracked.arriving
  obtain ⟨written,-,arrived⟩ := settled.still
  cases point : state.op with
  | idle =>
    rw [point,running] at calls
    omega
  | writing =>
    have stuck := settled .wrote trivial
    rw [step,point] at stuck
    simp [written] at stuck
  | readHead =>
    rw [point] at calls waiting
    have calls : state.calls = state.results.length + 1 := calls
    cases split : left state with
    | nil =>
      have all := List.drop_eq_nil_iff.mp split
      omega
    | cons entry rest =>
      have enough : headerSize ≤ state.down.arrived.length := by
        rw [arrived,show state.down.content = _ from waiting,split,frames_cons,List.length_append,
          sentHeader_length]
        omega
      obtain ⟨_,_,_,same,_⟩ := afterHead_left enough waiting
      have stuck := settled .head trivial
      rw [step,point] at stuck
      simp only [enough,if_true] at stuck
      cases same.symm.trans stuck
  | readBody header =>
    rw [point] at waiting
    obtain ⟨entry,rest,split,rfl,waiting⟩ := waiting
    have enough : (Awaited.header (sent setting entry)).bodyLen.toNat ≤ state.down.arrived.length := by
      rw [arrived,waiting,Awaited.bodyLen_header,List.length_append]
      omega
    have decodes := undoes entry.1 entry.2 (tracked.packs_left split)
    obtain ⟨same,-⟩ := afterBody_left nonzero entry rest enough waiting decodes
    have stuck := settled .body trivial
    rw [step,point] at stuck
    simp only [enough,if_true] at stuck
    cases same.symm.trans stuck
  | done result =>
    rw [point] at waiting
    have stuck := settled .ret trivial
    rw [step,point] at stuck
    simp [waiting.1] at stuck
  | threw =>
    rw [point] at waiting
    exact waiting.elim

/-- In every run, the results of the subscribes are the messages, the n-th that of the n-th; what the
programs and the network do by themselves comes to an end, and then every subscribe has returned
for which there is a message. -/
theorem subscribed_in_order (setting : Setting env) (nonzero : setting.topicId ≠ 0)
    (undoes : ∀ message text, packArgs setting.sp setting.passing setting.type message = .ok text →
      unpack setting.sp setting.type text = .ok message)
    (events : List (Event setting.type)) (final : State setting.type)
    (ran : run (step setting) {} events = some final) :
    final.results = (final.published.take final.results.length).map (fun entry => received entry.1) ∧
      (∀ internal settled, (∀ event ∈ internal, Internal event) →
        run (step setting) final internal = some settled → internal.length ≤ weight final) ∧
      (Settled final → (0 < final.calls → final.topicId = setting.topicId) ∧
        final.results.length = min final.calls final.published.length) := by
  have tracked := run_invariant (Tracked setting) (tracked_step nonzero undoes) events {} final
    (tracked_initial setting) ran
  refine ⟨tracked.inOrder,fun internal settled all goes => ?_,fun settled => ?_⟩
  · have bound := run_length Internal weight internal_lower internal final settled all goes
    omega
  · exact ⟨settled.heard tracked,settled.served tracked nonzero undoes⟩

theorem subscribed_in_order_twice :
    let setting : Setting noStruct := ⟨integerTuples,⟨.little,true⟩,ascii "topic",.string,.lvalue⟩
    let first : Text := Text.view [97]
    let second : Text := Text.view [98]
    let events : List (Event setting.type) := [.subscribe,.sendUp 32,.wrote,.deliverUp 32,.serve,
      .publish first,.sendDown 34,.publish second,.deliverDown 20,.deliverDown 14,.sendDown 34,.head,.body,
      .ret,.subscribe,.deliverDown 34,.head,.body,.ret]
    ∃ final, run (step setting) {} events = some final ∧ final.results.length = 2 ∧
      final.results = (final.published.take 2).map (fun entry => received entry.1) ∧
      final.published.map (fun entry => entry.2) = [first,second] := by
  intro setting first second events
  have counted : (run (step setting) {} events).map (fun final =>
      (final.results.length,final.published.map (fun entry => entry.2))) = some (2,[first,second]) := by
    decide +kernel
  obtain ⟨final,ran,same⟩ := Option.map_eq_some_iff.mp counted
  obtain ⟨inOrder,-,-⟩ := subscribed_in_order setting (by decide +kernel) (fun message text packs => packs.symm)
    events final ran
  obtain ⟨count,published⟩ := Prod.mk.inj same
  rw [count] at inOrder
  exact ⟨final,ran,count,inOrder,published⟩

end RestRpc.FeedOrder
