import RestRpc.Framing
import RestRpc.ResponseFrames

/-! What the client reads of what the writers of one connection send. The read loop of the server, its responding
contexts and its publishers write partly and by turns; the client reads whole frames out of chunks of its own. -/
namespace RestRpc.ReceivedFrames
open Automaton (run run_cons run_guarded run_invariant Guarded)
open Chunks Protocol ErrorCode Codec Router Connection Writes Framing ResponseFrames

def carried (result : RpcResult) (funcId : UInt32) : Result where
  ec := result.ec
  payload := Text.view result.data
  topicId := funcId

/-- The results of a run, in the order in which their responses were started. -/
def responses (events : List Event) : List Result :=
  events.filterMap fun
    | .response _ result funcId => some (carried result funcId)
    | _ => none

def Sized : Event → Prop
  | .response _ result _ => result.data.length < maxSize
  | _ => True

instance Sized.decide (event : Event) : Decidable (Sized event) := by
  rcases event with _ | _ <;> unfold Sized <;> infer_instance

theorem response_carried (cfg : Config) (result : RpcResult) (funcId : UInt32)
    (sized : result.data.length < maxSize) : response cfg result funcId = (carried result funcId).written cfg := by
  have same : (Text.view result.data).octets = result.data := List.take_of_length_le (Nat.le_sub_one_of_lt sized)
  have size : (packed result.ec (Text.view result.data)).size = result.size := by
    rw [packed_size,same,RpcResult.data_length]
  rw [Result.written,response_octets,response_octets,carried,packed_data,packed_ec,same,responseHeader,responseHeader,
    size]

theorem frames_advance (wire : Wire UInt8) (k n : Nat) (write : Write UInt8) (held : wire.writes[k]? = some write) :
    (wire.advance k write n).writes.map (·.frame) = wire.writes.map (·.frame) := by
  have frame : (wire.writes.map (·.frame))[k]? = some write.frame := by rw [List.getElem?_map,held,Option.map_some]
  obtain ⟨inside,own⟩ := List.getElem?_eq_some_iff.mp frame
  rw [Wire.advance,List.map_set,← own,List.set_getElem_self]

theorem frames_run (cfg : Config) (events : List Event) (state final : State)
    (sized : ∀ event ∈ events, Sized event) (ran : run (step cfg) state events = some final) :
    final.wire.writes.map (·.frame) =
      state.wire.writes.map (·.frame) ++ (responses events).map (Result.written cfg) := by
  induction events generalizing state with
  | nil =>
    cases ran
    exact (List.append_nil _).symm
  | cons event events ih =>
    obtain ⟨next,taken,rest⟩ := (run_cons ..).mp ran
    have later := ih next (fun other member => sized other (List.mem_cons_of_mem _ member)) rest
    have own := sized event List.mem_cons_self
    rw [later]
    cases step_cases cfg state next event taken with
    | response writer result funcId free =>
      have first : responses (.response writer result funcId::events) = carried result funcId::responses events := rfl
      rw [first,List.map_cons,← response_carried cfg result funcId own]
      simp [respond,Wire.start]
    | sent writer n k write waits held => exact congrArg (· ++ _) (frames_advance state.wire k n write held)
    | completed => rfl
    | failed => rfl
    | close => rfl

theorem inOrder_prefix (first : Nat) (writes : List (Write UInt8)) (sequential : Sequential writes) :
    (inOrder first writes).map Prod.snd <+: (writes.map (·.frame)).flatten := by
  induction writes generalizing first with
  | nil => exact List.nil_prefix
  | cons write writes ih =>
    have split : (inOrder first (write::writes)).map Prod.snd =
        write.frame.take write.offset ++ (inOrder (first+1) writes).map Prod.snd := by
      simp [inOrder,List.zipIdx_cons,tagged,Function.comp_def]
    rw [split,List.map_cons,List.flatten_cons]
    rcases sequential with ⟨complete,rest⟩ | unsent
    · rw [complete,List.take_length]
      exact (List.prefix_append_right_inj _).mpr (ih (first+1) rest)
    · rw [inOrder_zero _ _ unsent,List.map_nil,List.append_nil]
      exact (List.take_prefix _ _).trans (List.prefix_append _ _)

theorem inOrder_complete (first : Nat) (writes : List (Write UInt8)) (complete : ∀ write ∈ writes, Complete write) :
    (inOrder first writes).map Prod.snd = (writes.map (·.frame)).flatten := by
  induction writes generalizing first with
  | nil => rfl
  | cons write writes ih =>
    have own : write.frame.take write.offset = write.frame := by
      rw [complete write List.mem_cons_self,List.take_length]
    have others := ih (first+1) fun other member => complete other (List.mem_cons_of_mem _ member)
    rw [List.map_cons,List.flatten_cons,← others]
    simp [inOrder,List.zipIdx_cons,tagged,Function.comp_def,own]

theorem waitResponse_cut (cfg : Config) (result : Result) (chunks : List (List UInt8))
    (partly : chunks.flatten <+: result.written cfg) (cut : chunks.flatten.length < (result.written cfg).length) :
    waitResponse cfg chunks = none := by
  rcases Nat.lt_or_ge chunks.flatten.length headerSize with short | enough
  · rw [waitResponse,readExactly_none _ _ short]
    rfl
  · rw [Result.written,response_octets,packed_data] at partly cut
    have length := sentHeader_length cfg (responseHeader (packed result.ec result.payload) result.topicId)
    obtain ⟨tail,joined⟩ : sentHeader cfg (responseHeader (packed result.ec result.payload) result.topicId) <+:
        chunks.flatten := List.prefix_of_prefix_length_le (List.prefix_append _ _) partly (by rwa [length])
    obtain ⟨rest,readHead,left⟩ := readExactly_some chunks _ tail joined.symm
    have whole : (UInt64.ofNat (result.payload.octets.length + 1)).toNat = result.payload.octets.length + 1 :=
      ofNat_length _ (by have := result.payload.bound; omega)
    have missing : rest.flatten.length < result.payload.octets.length + 1 := by
      rw [← joined,List.length_append,List.length_append,List.length_cons] at cut
      rw [left]
      omega
    rw [length] at readHead
    have unread := readExactly_none _ rest missing
    simp only [waitResponse,readHead,Option.bind_eq_bind,Option.bind_some,afterHead_response,responseHeader_bodyLen,
      packed_size,whole,unread,Option.bind_none]

theorem waitResponses_prefix (cfg : Config) (results : List Result) (chunks : List (List UInt8))
    (partly : chunks.flatten <+: (results.map (Result.written cfg)).flatten) :
    ∃ k rest, k ≤ results.length ∧ waitResponses cfg k chunks = some ((results.take k).map Result.frame,rest) ∧
      waitResponse cfg rest = none ∧
        (chunks.flatten = (results.map (Result.written cfg)).flatten → k = results.length) := by
  induction results generalizing chunks with
  | nil =>
    have empty : chunks.flatten = [] := List.prefix_nil.mp partly
    refine ⟨0,chunks,Nat.le_refl _,rfl,?_,fun _ => rfl⟩
    rw [waitResponse,readExactly_none headerSize chunks (by simp [empty,headerSize])]
    rfl
  | cons result results ih =>
    rw [List.map_cons,List.flatten_cons] at partly ⊢
    rcases Nat.lt_or_ge chunks.flatten.length (result.written cfg).length with cut | enough
    · have own : chunks.flatten <+: result.written cfg :=
        List.prefix_of_prefix_length_le partly (List.prefix_append _ _) (Nat.le_of_lt cut)
      refine ⟨0,chunks,Nat.zero_le _,rfl,waitResponse_cut cfg result chunks own cut,fun whole => ?_⟩
      rw [whole,List.length_append] at cut
      omega
    · obtain ⟨tail,joined⟩ := List.prefix_of_prefix_length_le (List.prefix_append _ _) partly enough
      obtain ⟨middle,left,first⟩ := waitResponse_result cfg result chunks tail joined.symm
      rw [← joined,← left,List.prefix_append_right_inj] at partly
      obtain ⟨k,rest,bound,others,stops,all⟩ := ih middle partly
      refine ⟨k+1,rest,Nat.succ_le_succ bound,?_,stops,fun whole => ?_⟩
      · simp [waitResponses,first,others]
      · rw [← joined,← left,List.append_cancel_left_eq] at whole
        rw [all whole,List.length_cons]

/-- As long as responses start alone: whatever the partial writes, and however much has arrived in whatever chunks,
the client reads the results of the responses that have arrived as a whole, in the order in which they were started,
and then waits. When everything has been written and has arrived, it has read all of them. -/
theorem results_received (cfg : Config) (events : List Event) (final : State) (chunks : List (List UInt8))
    (alone : Guarded (step cfg) Alone {} events) (sized : ∀ event ∈ events, Sized event)
    (ran : run (step cfg) {} events = some final) (arrived : chunks.flatten <+: final.wire.sent.map Prod.snd) :
    ∃ k rest, k ≤ (responses events).length ∧
      waitResponses cfg k chunks = some (((responses events).take k).map Result.frame,rest) ∧
        waitResponse cfg rest = none ∧
          ((∀ write ∈ final.wire.writes, Complete write) → chunks.flatten = final.wire.sent.map Prod.snd →
            k = (responses events).length) := by
  have orderly : Orderly final := run_guarded Orderly (orderly_step cfg) events {} final
    ⟨⟨trivial,rfl⟩,fun _ => .inl rfl⟩ alone ran
  have frames : final.wire.writes.map (·.frame) = (responses events).map (Result.written cfg) :=
    frames_run cfg events {} final sized ran
  have begun := inOrder_prefix 0 final.wire.writes orderly.serial.sequential
  rw [← orderly.serial.sent,frames] at begun
  obtain ⟨k,rest,bound,read,stops,all⟩ := waitResponses_prefix cfg (responses events) chunks (arrived.trans begun)
  refine ⟨k,rest,bound,read,stops,fun complete whole => all ?_⟩
  rw [whole,orderly.serial.sent,inOrder_complete 0 _ complete,frames]

/-- A response, and a message that is partly sent; the stream is cut inside the response. -/
theorem results_received_partly :
    let cfg : Config := ⟨.big,true⟩
    let events : List Event := [.response .readLoop (packed .ok (Text.view [55])) 0,.sent .readLoop 20,
      .sent .readLoop 14,.completed .readLoop,.response (.publisher 0) (packed .ok (Text.view [56])) 9,
      .sent (.publisher 0) 30]
    ∃ final, run (step cfg) {} events = some final ∧
      let sent := final.wire.sent.map Prod.snd
      ∃ k rest, k ≤ 2 ∧ waitResponses cfg k [sent.take 7,sent.drop 7] =
          some (((responses events).take k).map Result.frame,rest) ∧
        waitResponse cfg rest = none ∧
          ((∀ write ∈ final.wire.writes, Complete write) → [sent.take 7,sent.drop 7].flatten = sent →
            k = (responses events).length) := by
  intro cfg events
  have able : (run (step cfg) {} events).isSome = true := by decide +kernel
  obtain ⟨final,ran⟩ := Option.isSome_iff_exists.mp able
  have alone : Guarded (step cfg) Alone {} events := by decide +kernel
  have sized : ∀ event ∈ events, Sized event := by decide +kernel
  exact ⟨final,ran,results_received cfg events final _ alone sized ran (by simp)⟩

end RestRpc.ReceivedFrames
