import RestRpc.FrameEnds
import RestRpc.Feed
import RestRpc.OverlappingCalls
import RestRpc.Call

/-! `start` and `wait_response` are modelled where they are used: on a stream in chunks, on its octets, and with an
event for each read. The models agree on what they read and where they leave the stream. -/
namespace RestRpc.Readers
open Chunks Protocol ErrorCode Codec Router Connection Client

variable {env : TypeEnv} {sp : StructPack env} {R : ReturnType env} {cfg : Config}

theorem readExactly_outcome (size : Nat) (chunks : List (List UInt8)) :
    (readExactly size chunks = none ∧ FrameEnds.readOutcome false size chunks.flatten = none) ∨
      ∃ rest, readExactly size chunks = some (chunks.flatten.take size,rest) ∧
        rest.flatten = chunks.flatten.drop size ∧
        FrameEnds.readOutcome false size chunks.flatten = some (some (chunks.flatten.take size)) := by
  by_cases whole : size ≤ chunks.flatten.length
  · obtain ⟨rest,read,left⟩ := readExactly_take size chunks whole
    exact .inr ⟨rest,read,left,FrameEnds.readOutcome_some size _ whole⟩
  · exact .inl ⟨readExactly_none size chunks (Nat.lt_of_not_le whole),FrameEnds.readOutcome_none size _ whole⟩

section client

def exit : Call.Ended R × Call.SocketT → Option FrameEnds.Exit
  | (.waiting,_) => none
  | (_,socket) => some (if socket.isOpen then .connected socket.incoming.flatten else .closed)

theorem waitResponse_exit (socket : Call.SocketT) (isOpen : socket.isOpen = true) :
    FrameEnds.waitResponse sp R cfg {} socket.incoming.flatten = exit (Call.waitResponse sp R cfg socket) := by
  rcases readExactly_outcome headerSize socket.incoming with ⟨waits,short⟩ | ⟨rest,read,left,whole⟩
  · simp only [FrameEnds.waitResponse,short,Call.waitResponse,waits]
    rfl
  simp only [FrameEnds.waitResponse,whole,Call.waitResponse,read,Option.bind_eq_bind,Option.bind_some,
    FrameEnds.afterHeader,← left]
  cases Client.afterHead cfg (some (socket.incoming.flatten.take headerSize)) true with
  | readError => rfl
  | protocolError => simp [exit,isOpen]
  | threw => simp [exit,isOpen]
  | readBody header =>
    rcases readExactly_outcome header.bodyLen.toNat rest with ⟨waits,short⟩ | ⟨behind,follows,end_,body⟩
    · simp only [waits,short]
      rfl
    · simp only [follows,body,Option.bind_some,← end_]
      cases Client.afterBody sp R header (some (rest.flatten.take header.bodyLen.toNat)) with
      | readError => rfl
      | outside => simp [exit,isOpen]
      | threw what => simp [exit,isOpen]
      | returned result => simp [exit,isOpen]

/-- A frame whose payload lies in its body is decoded as the return type. -/
theorem waitResponse_frame (socket : Call.SocketT) (frame : Framing.Frame) (rest : List (List UInt8))
    (found : Framing.waitResponse cfg socket.incoming = some (frame,rest)) :
    Call.waitResponse sp R cfg socket = (Call.decoded sp frame.ec frame.payload R,{socket with incoming := rest}) := by
  unfold Framing.waitResponse at found
  obtain ⟨⟨head,middle⟩,read,found⟩ := Option.bind_eq_some_iff.mp found
  simp only [Call.waitResponse,read]
  cases next : Client.afterHead cfg (some head) true with
  | readBody header =>
    simp only [next] at found
    obtain ⟨⟨body,behind⟩,follows,found⟩ := Option.bind_eq_some_iff.mp found
    obtain ⟨data,view,same⟩ := Option.bind_eq_some_iff.mp found
    cases same
    simp only [follows]
    cases R with
    | none => rfl
    | some type =>
      simp only [Client.afterBody,view,Call.decoded]
      cases unpack sp type data with
      | error what => rfl
      | ok value => rfl
  | _ => simp [next] at found

theorem waitResponse_reads (socket : Call.SocketT) (header : RestRpcHeader) (result : CallResult R)
    (whole : headerSize ≤ socket.incoming.flatten.length)
    (head : Client.afterHead cfg (some (socket.incoming.flatten.take headerSize)) true = .readBody header)
    (follows : header.bodyLen.toNat ≤ (socket.incoming.flatten.drop headerSize).length)
    (body : Client.afterBody sp R header
      (some ((socket.incoming.flatten.drop headerSize).take header.bodyLen.toNat)) = .returned result) :
    ∃ left, left.flatten = (socket.incoming.flatten.drop headerSize).drop header.bodyLen.toNat ∧
      Call.waitResponse sp R cfg socket = (.returned result,{socket with incoming := left}) := by
  obtain ⟨middle,read,left⟩ := readExactly_take headerSize socket.incoming whole
  rw [← left] at follows body ⊢
  obtain ⟨rest,taken,behind⟩ := readExactly_take header.bodyLen.toNat middle follows
  exact ⟨rest,behind,by simp only [Call.waitResponse,read,head,taken,body]⟩

end client

/-- A round of the loop with an octet stream: the request it makes and where the next round begins, or the end of
the loop. -/
theorem start_round (cfg : Config) (fuel : Nat) (chunks : List (List UInt8)) :
    (FrameEnds.start cfg true chunks.flatten = none ∧ (Framing.start cfg (fuel+1) chunks).1 = []) ∨
      ∃ request rest, FrameEnds.start cfg true chunks.flatten = some rest.flatten ∧
        Framing.start cfg (fuel+1) chunks = (request::(Framing.start cfg fuel rest).1,(Framing.start cfg fuel rest).2) := by
  rcases readExactly_outcome headerSize chunks with ⟨waits,short⟩ | ⟨rest,read,left,whole⟩
  · exact .inl ⟨by simp [FrameEnds.start,short],by simp [Framing.start,waits]⟩
  simp only [FrameEnds.start,whole,Framing.start,read,Option.bind_eq_bind,Option.bind_some,FrameEnds.afterHeader,← left]
  cases Connection.afterHead cfg (some (chunks.flatten.take headerSize)) true with
  | readError => exact .inl ⟨rfl,rfl⟩
  | protocolError => exact .inl ⟨rfl,rfl⟩
  | threw => exact .inl ⟨rfl,rfl⟩
  | subscribed topicId => exact .inr ⟨.subscribe topicId,rest,rfl,rfl⟩
  | route functionId body => exact .inr ⟨.call functionId body,rest,rfl,rfl⟩
  | readBody header =>
    rcases readExactly_outcome header.bodyLen.toNat rest with ⟨waits,short⟩ | ⟨behind,follows,end_,body⟩
    · exact .inl ⟨by simp [short],by simp [waits]⟩
    · simp only [follows,body,Option.bind_some,← end_]
      cases Connection.afterBody header (some (rest.flatten.take header.bodyLen.toNat)) with
      | readError => exact .inl ⟨rfl,rfl⟩
      | route functionId data => exact .inr ⟨.call functionId data,behind,rfl,rfl⟩

theorem waitResponse_events (down middle left : List UInt8) (header : RestRpcHeader) (result : CallResult R)
    (whole : headerSize ≤ down.length) (follows : header.bodyLen.toNat ≤ middle.length)
    (head : Client.afterHead cfg (some (down.take headerSize)) true = .readBody header ∧ middle = down.drop headerSize)
    (body : Client.afterBody sp R header (some (middle.take header.bodyLen.toNat)) = .returned result ∧
      left = middle.drop header.bodyLen.toNat) :
    ∃ rest, rest.flatten = left ∧
      Call.waitResponse sp R cfg {incoming := [down]} = (.returned result,{incoming := rest}) := by
  obtain ⟨head,rfl⟩ := head
  obtain ⟨body,rfl⟩ := body
  have joined : [down].flatten = down := List.flatten_singleton
  have waited := @waitResponse_reads env sp R cfg {incoming := [down]} header result
  simp only [joined] at waited
  exact waited whole head follows body

section events

variable {header : RestRpcHeader} {result : CallResult R}

theorem session_head {state : Session.State env} {impl : Session.Impl env} {s : Nat} {middle : Session.After env}
    (read : Session.afterHead cfg state impl s true = some middle) (reading : middle.impl.point = .readBody header) :
    Client.afterHead cfg (some ((state.streams s).down.take headerSize)) true = .readBody header ∧
      (middle.state.streams s).down = (state.streams s).down.drop headerSize := by
  unfold Session.afterHead at read
  cases ready : Client.afterHead cfg (some ((state.streams s).down.take headerSize)) true with
  | readError => simp [ready] at read
  | readBody found =>
    rw [ready] at read
    cases read
    cases reading
    exact ⟨rfl,by simp [Session.State.setStream,Session.Stream.readHead]⟩
  | _ =>
    rw [ready] at read
    cases read
    cases reading

theorem session_body {state : Session.State env} {impl : Session.Impl env} {s : Nat} {after : Session.After env}
    (read : Session.afterBody sp state impl s header = some after) (done : after.impl.point = .done ⟨R,result⟩) :
    Client.afterBody sp R header (some ((state.streams s).down.take header.bodyLen.toNat)) = .returned result ∧
      (after.state.streams s).down = (state.streams s).down.drop header.bodyLen.toNat := by
  unfold Session.afterBody at read
  cases ended : Client.afterBody sp impl.R header (some ((state.streams s).down.take header.bodyLen.toNat)) with
  | returned got =>
    simp only [ended] at read
    cases read
    cases done
    exact ⟨ended,by simp [Session.State.setStream,Session.Stream.readBody]⟩
  | threw what =>
    simp only [ended] at read
    cases read
    cases done
  | _ => simp [ended] at read

/-- The reads of `call_impl` and of `subscribe` on the stream that their socket stays connected to. -/
theorem session_reads {state : Session.State env} {impl : Session.Impl env} {s : Nat} {middle after : Session.After env}
    (whole : headerSize ≤ (state.streams s).down.length)
    (head : Session.afterHead cfg state impl s true = some middle) (reading : middle.impl.point = .readBody header)
    (follows : header.bodyLen.toNat ≤ (middle.state.streams s).down.length)
    (body : Session.afterBody sp middle.state middle.impl s header = some after)
    (done : after.impl.point = .done ⟨R,result⟩) :
    ∃ rest, rest.flatten = (after.state.streams s).down ∧
      Call.waitResponse sp R cfg {incoming := [(state.streams s).down]} = (.returned result,{incoming := rest}) :=
  waitResponse_events _ _ _ header result whole follows (session_head head reading) (session_body body done)

section feed

variable {setting : Feed.Setting env} {state middle next : Feed.State setting.type}
  {message : CallResult (some setting.type)}

theorem feed_head (read : Feed.afterHead setting state = some middle) (reading : middle.op = .readBody header) :
    Client.afterHead setting.cfg (some (state.down.arrived.take headerSize)) true = .readBody header ∧
      middle.down.arrived = state.down.arrived.drop headerSize := by
  unfold Feed.afterHead at read
  cases ready : Client.afterHead setting.cfg (some (state.down.arrived.take headerSize)) true with
  | readError => simp [ready] at read
  | readBody found =>
    rw [ready] at read
    cases read
    cases reading
    exact ⟨rfl,rfl⟩
  | _ =>
    rw [ready] at read
    cases read
    cases reading

theorem feed_body (read : Feed.afterBody setting state header = some next) (done : next.op = .done message) :
    Client.afterBody setting.sp (some setting.type) header (some (state.down.arrived.take header.bodyLen.toNat)) =
        .returned message ∧ next.down.arrived = state.down.arrived.drop header.bodyLen.toNat := by
  unfold Feed.afterBody at read
  cases ended : Client.afterBody setting.sp (some setting.type) header
      (some (state.down.arrived.take header.bodyLen.toNat)) with
  | returned got =>
    simp only [ended] at read
    cases read
    cases done
    exact ⟨rfl,rfl⟩
  | threw what =>
    simp only [ended] at read
    cases read
    cases done
  | _ => simp [ended] at read

/-- The reads of a `subscribe` whose messages come octet by octet. -/
theorem feed_reads (whole : headerSize ≤ state.down.arrived.length)
    (head : Feed.afterHead setting state = some middle) (reading : middle.op = .readBody header)
    (follows : header.bodyLen.toNat ≤ middle.down.arrived.length)
    (body : Feed.afterBody setting middle header = some next) (done : next.op = .done message) :
    ∃ rest, rest.flatten = next.down.arrived ∧
      Call.waitResponse setting.sp (some setting.type) setting.cfg {incoming := [state.down.arrived]} =
        (.returned message,{incoming := rest}) :=
  waitResponse_events _ _ _ header message whole follows (feed_head head reading) (feed_body body done)

end feed

section overlapping

variable {state middle next : OverlappingCalls.State env} {k : Nat} {reads others : List Nat}

theorem point_setPoint (state : OverlappingCalls.State env) (k : Nat) (point : OverlappingCalls.Point env) :
    (state.setPoint k point).point k = (state.point k).map fun _ => point := by
  simp [OverlappingCalls.State.point,OverlappingCalls.State.setPoint,Function.comp_def]

theorem overlapping_head (read : OverlappingCalls.afterHead cfg state k R reads = some middle)
    (reading : middle.point k = some (.readBody header)) :
    Client.afterHead cfg (some (state.down.take headerSize)) true = .readBody header ∧
      middle.down = state.down.drop headerSize := by
  unfold OverlappingCalls.afterHead at read
  cases ready : Client.afterHead cfg (some (state.down.take headerSize)) true with
  | readError => simp [ready] at read
  | readBody found =>
    simp only [ready,Option.some.injEq] at read
    rw [← read,point_setPoint] at reading
    obtain ⟨_,-,same⟩ := Option.map_eq_some_iff.mp reading
    cases same
    rw [← read]
    exact ⟨rfl,rfl⟩
  | _ =>
    simp only [ready,Option.some.injEq] at read
    rw [← read,point_setPoint] at reading
    simp at reading

theorem overlapping_body (read : OverlappingCalls.afterBody sp state k R header others = some next)
    (done : next.point k = some (.done ⟨R,result⟩)) :
    Client.afterBody sp R header (some (state.down.take header.bodyLen.toNat)) = .returned result ∧
      next.down = state.down.drop header.bodyLen.toNat := by
  unfold OverlappingCalls.afterBody at read
  cases ended : Client.afterBody sp R header (some (state.down.take header.bodyLen.toNat)) with
  | readError => simp [ended] at read
  | outside => simp [ended] at read
  | threw what =>
    simp only [ended,Option.some.injEq] at read
    rw [← read,point_setPoint] at done
    simp at done
  | returned got =>
    simp only [ended,Option.some.injEq] at read
    rw [← read,point_setPoint] at done
    obtain ⟨_,-,same⟩ := Option.map_eq_some_iff.mp done
    cases same
    rw [← read]
    exact ⟨rfl,rfl⟩

/-- The reads of one of several calls, when no other call reads between them. -/
theorem overlapping_reads (whole : headerSize ≤ state.down.length)
    (head : OverlappingCalls.afterHead cfg state k R reads = some middle)
    (reading : middle.point k = some (.readBody header)) (follows : header.bodyLen.toNat ≤ middle.down.length)
    (body : OverlappingCalls.afterBody sp middle k R header others = some next)
    (done : next.point k = some (.done ⟨R,result⟩)) :
    ∃ rest, rest.flatten = next.down ∧
      Call.waitResponse sp R cfg {incoming := [state.down]} = (.returned result,{incoming := rest}) :=
  waitResponse_events _ _ _ header result whole follows (overlapping_head head reading) (overlapping_body body done)

end overlapping

end events

end RestRpc.Readers
