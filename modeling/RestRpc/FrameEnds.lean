import RestRpc.IntegerTuples
import RestRpc.Client

/-! Where the two readers stand in a stream when they are done with a frame, and what the client
decodes of it. A stream is what arrives from a header read on; a read is done when its octets are
there, or it fails. -/
namespace RestRpc.FrameEnds
open Octets Protocol ErrorCode Codec Router Connection Client IntegerTuples

variable {env : TypeEnv} {R : ReturnType env}

structure Reads where
  headFails : Bool := false
  allocated : Bool := true
  bodyFails : Bool := false
  deriving DecidableEq,Repr

/-- The socket is closed, or the next header read on it begins with the octets that are left. -/
inductive Exit
  | closed
  | connected (left : List UInt8)
  deriving DecidableEq,Repr

def headerOf (cfg : Config) (stream : List UInt8) : RestRpcHeader := receivedHeader cfg (stream.take headerSize)

def afterHeader (stream : List UInt8) : List UInt8 := stream.drop headerSize

def readOutcome (fails : Bool) (size : Nat) (stream : List UInt8) : Option ReadOutcome :=
  if fails then some none else if size ≤ stream.length then some (some (stream.take size)) else none

/-- `wait_response`; `none` while it waits. A decoding that fails leaves the stream behind the frame. -/
def waitResponse (sp : StructPack env) (R : ReturnType env) (cfg : Config) (reads : Reads)
    (stream : List UInt8) : Option Exit := do
  let head ← readOutcome reads.headFails headerSize stream
  let rest := afterHeader stream
  match Client.afterHead cfg head reads.allocated with
  | .readError => return .closed
  | .protocolError => return .connected rest
  | .threw => return .connected rest
  | .readBody header =>
    let body ← readOutcome reads.bodyFails header.bodyLen.toNat rest
    let left := rest.drop header.bodyLen.toNat
    match Client.afterBody sp R header body with
    | .readError => return .closed
    | .outside => return .connected left
    | .threw _ => return .connected left
    | .returned _ => return .connected left

/-- One round of `start`, whose writes succeed: what is left when it begins its next header read. -/
def start (cfg : Config) (allocated : Bool) (stream : List UInt8) : Option (List UInt8) := do
  let head ← readOutcome false headerSize stream
  let rest := afterHeader stream
  match Connection.afterHead cfg head allocated with
  | .readError => none
  | .protocolError => none
  | .threw => none
  | .subscribed _ => return rest
  | .route _ _ => return rest
  | .readBody header =>
    let body ← readOutcome false header.bodyLen.toNat rest
    match Connection.afterBody header body with
    | .readError => none
    | .route _ _ => return rest.drop header.bodyLen.toNat

def frameEnd (length : UInt64) (stream : List UInt8) : Option (List UInt8) :=
  if length.toNat ≤ (afterHeader stream).length then some ((afterHeader stream).drop length.toNat) else none

def EndsAlike (sp : StructPack env) (R : ReturnType env) (server client : Config)
    (serverAllocated clientAllocated : Bool) (stream : List UInt8) : Prop :=
  start server serverAllocated stream = frameEnd (headerOf server stream).bodyLen stream ∧
    waitResponse sp R client {allocated := clientAllocated} stream =
      (frameEnd (headerOf client stream).bodyLen stream).map .connected

/-- The server's branch for a subscription takes no body, and otherwise the body fits into memory
or is still incomplete; at the client it fits, or there is none. -/
def TakesBody (server client : Config) (serverAllocated clientAllocated : Bool) (stream : List UInt8) : Prop :=
  (if (headerOf server stream).msgType = 1 then (headerOf server stream).bodyLen = 0
    else resizes (headerOf server stream).bodyLen serverAllocated = true ∨
      (afterHeader stream).length < (headerOf server stream).bodyLen.toNat) ∧
    (resizes (headerOf client stream).bodyLen clientAllocated = true ∨ (headerOf client stream).bodyLen = 0)

def frameRead (cfg : Config) (reads : Reads) (stream : List UInt8) : Option (RestRpcHeader × List UInt8) := do
  let head ← readOutcome reads.headFails headerSize stream
  match Client.afterHead cfg head reads.allocated with
  | .readBody header =>
    let body ← (← readOutcome reads.bodyFails header.bodyLen.toNat (afterHeader stream))
    return (header,body)
  | _ => none

def Reported : AfterBody R → Prop
  | .readError => True
  | .outside => False
  | .threw _ => True
  | .returned result => result.ec ≠ .ok

/-- The view handed to `unpack` is inside the body that was read, and a frame without a code octet
is an error. -/
def PayloadInside (sp : StructPack env) (R : ReturnType env) (cfg : Config) (reads : Reads)
    (stream : List UInt8) : Prop :=
  ∀ frame ∈ frameRead cfg reads stream,
    (R.isSome → 1 ≤ frame.1.bodyLen ∧ 1 + (frame.1.bodyLen - 1).toNat ≤ frame.2.length) ∧
      (frame.2 = [] → Reported (Client.afterBody sp R frame.1 (some frame.2)))

def DecodesEmpty (cfg : Config) (reads : Reads) (stream : List UInt8) : Prop :=
  reads.headFails = false ∧ headerSize ≤ stream.length ∧ (headerOf cfg stream).magic = restMagicNum ∧
    (headerOf cfg stream).bodyLen = 0 ∧ reads.allocated = true ∧ reads.bodyFails = false

def WholeFrame (cfg : Config) (stream : List UInt8) : Exit → Prop
  | .closed => True
  | .connected left => frameEnd (headerOf cfg stream).bodyLen stream = some left

/-- The header read fails, or there is no body to leave behind, or the body read is started. -/
def ReadsBody (cfg : Config) (reads : Reads) (stream : List UInt8) : Prop :=
  reads.headFails = true ∨ (headerOf cfg stream).bodyLen = 0 ∨
    (headerOf cfg stream).magic = restMagicNum ∧ resizes (headerOf cfg stream).bodyLen reads.allocated = true

variable {sp : StructPack env} {cfg : Config} {reads : Reads} {stream : List UInt8}

theorem frameEnd_zero (stream : List UInt8) : frameEnd 0 stream = some (afterHeader stream) := by
  simp [frameEnd]

theorem frameEnd_afterHeader (length : UInt64) (stream : List UInt8) :
    frameEnd length stream = some (afterHeader stream) ↔ length = 0 := by
  constructor
  · intro ends
    unfold frameEnd at ends
    split at ends
    · rename_i whole
      have sizes := congrArg List.length (Option.some.inj ends)
      rw [List.length_drop] at sizes
      apply UInt64.toNat_inj.mp
      rw [UInt64.toNat_zero]
      omega
    · cases ends
  · rintro rfl
    exact frameEnd_zero stream

theorem receivedHeader_magic (cfg : Config) (octets : List UInt8) :
    (receivedHeader cfg octets).magic = (view cfg.host octets).magic := by
  unfold receivedHeader
  simp only
  split
  · rfl
  · rfl

theorem readOutcome_some (size : Nat) (stream : List UInt8) (whole : size ≤ stream.length) :
    readOutcome false size stream = some (some (stream.take size)) := if_pos whole

theorem readOutcome_none (size : Nat) (stream : List UInt8) (short : ¬size ≤ stream.length) :
    readOutcome false size stream = none := if_neg short

theorem afterBody_read (sp : StructPack env) (R : ReturnType env) (header : RestRpcHeader) (body : List UInt8) :
    Client.afterBody sp R header (some body) ≠ .readError := by
  cases R with
  | none => simp [Client.afterBody]
  | some type =>
    simp only [Client.afterBody]
    split
    · simp
    · split
      · simp
      · simp

theorem start_eq (cfg : Config) (allocated : Bool) (stream : List UInt8) (whole : headerSize ≤ stream.length)
    (magic : (headerOf cfg stream).magic = restMagicNum) :
    start cfg allocated stream =
      if (headerOf cfg stream).msgType = 1 then some (afterHeader stream)
      else if resizes (headerOf cfg stream).bodyLen allocated then frameEnd (headerOf cfg stream).bodyLen stream
      else none := by
  have head : Connection.afterHead cfg (some (stream.take headerSize)) allocated =
      if (headerOf cfg stream).msgType = 1 then .subscribed (headerOf cfg stream).functionId
      else if !resizes (headerOf cfg stream).bodyLen allocated then .threw
      else if 0 < (headerOf cfg stream).bodyLen then .readBody (headerOf cfg stream)
      else .route (headerOf cfg stream).functionId Text.empty := if_neg (not_not_intro magic)
  simp only [start,readOutcome_some headerSize stream whole,Option.bind_eq_bind,Option.bind_some]
  by_cases subscribes : (headerOf cfg stream).msgType = 1
  · rw [if_pos subscribes] at head ⊢
    rw [head]
    rfl
  · rw [if_neg subscribes] at head ⊢
    cases fits : resizes (headerOf cfg stream).bodyLen allocated with
    | false =>
      rw [head,fits]
      rfl
    | true =>
      rw [fits] at head
      by_cases positive : 0 < (headerOf cfg stream).bodyLen
      · rw [if_neg (by decide),if_pos positive] at head
        simp only [head,if_true]
        by_cases follows : (headerOf cfg stream).bodyLen.toNat ≤ (afterHeader stream).length
        · rw [readOutcome_some _ _ follows,frameEnd,if_pos follows]
          rfl
        · rw [readOutcome_none _ _ follows,frameEnd,if_neg follows]
          rfl
      · have none : (headerOf cfg stream).bodyLen = 0 := by simpa using positive
        rw [if_neg (by decide),if_neg positive] at head
        simp only [head,none,frameEnd_zero,if_true]
        rfl

theorem afterHead_client (cfg : Config) (stream : List UInt8) (allocated : Bool) :
    Client.afterHead cfg (some (stream.take headerSize)) allocated =
      if (headerOf cfg stream).magic ≠ restMagicNum then .protocolError
      else if resizes (headerOf cfg stream).bodyLen allocated then .readBody (headerOf cfg stream) else .threw := by
  rw [headerOf,receivedHeader_magic]
  rfl

theorem waitResponse_eq (sp : StructPack env) (R : ReturnType env) (cfg : Config) (allocated : Bool)
    (stream : List UInt8) (whole : headerSize ≤ stream.length)
    (magic : (headerOf cfg stream).magic = restMagicNum) :
    waitResponse sp R cfg {allocated := allocated} stream =
      if resizes (headerOf cfg stream).bodyLen allocated then
        (frameEnd (headerOf cfg stream).bodyLen stream).map .connected
      else some (.connected (afterHeader stream)) := by
  have head := afterHead_client cfg stream allocated
  rw [if_neg (not_not_intro magic)] at head
  simp only [waitResponse,readOutcome_some headerSize stream whole,Option.bind_eq_bind,Option.bind_some]
  cases fits : resizes (headerOf cfg stream).bodyLen allocated with
  | false =>
    rw [head,fits]
    rfl
  | true =>
    rw [fits] at head
    simp only [head,if_true]
    by_cases follows : (headerOf cfg stream).bodyLen.toNat ≤ (afterHeader stream).length
    · rw [readOutcome_some _ _ follows,frameEnd,if_pos follows]
      simp only [Option.bind_some]
      cases ended : Client.afterBody sp R (headerOf cfg stream)
          (some ((afterHeader stream).take (headerOf cfg stream).bodyLen.toNat)) with
      | readError => exact absurd ended (afterBody_read sp R _ _)
      | outside => rfl
      | threw what => rfl
      | returned result => rfl
    · rw [readOutcome_none _ _ follows,frameEnd,if_neg follows]
      rfl

theorem start_frameEnd_iff (cfg : Config) (allocated : Bool) (stream : List UInt8)
    (whole : headerSize ≤ stream.length) (magic : (headerOf cfg stream).magic = restMagicNum) :
    start cfg allocated stream = frameEnd (headerOf cfg stream).bodyLen stream ↔
      if (headerOf cfg stream).msgType = 1 then (headerOf cfg stream).bodyLen = 0
      else resizes (headerOf cfg stream).bodyLen allocated = true ∨
        (afterHeader stream).length < (headerOf cfg stream).bodyLen.toNat := by
  rw [start_eq cfg allocated stream whole magic]
  split
  · rw [eq_comm,frameEnd_afterHeader]
  · split
    · rename_i fits
      simp [fits]
    · rename_i refuses
      rw [eq_comm,frameEnd]
      simp [refuses]

theorem waitResponse_frameEnd_iff (sp : StructPack env) (R : ReturnType env) (cfg : Config) (allocated : Bool)
    (stream : List UInt8) (whole : headerSize ≤ stream.length)
    (magic : (headerOf cfg stream).magic = restMagicNum) :
    waitResponse sp R cfg {allocated := allocated} stream =
        (frameEnd (headerOf cfg stream).bodyLen stream).map .connected ↔
      resizes (headerOf cfg stream).bodyLen allocated = true ∨ (headerOf cfg stream).bodyLen = 0 := by
  rw [waitResponse_eq sp R cfg allocated stream whole magic]
  split
  · rename_i fits
    simp [fits]
  · rename_i refuses
    rw [eq_comm,Option.map_eq_some_iff]
    simp [frameEnd_afterHeader,refuses]

/-- The two readers begin their next header read at the frame's end exactly when neither leaves
a part of the body to it. -/
theorem endsAlike_iff_takesBody (sp : StructPack env) (R : ReturnType env) (server client : Config)
    (serverAllocated clientAllocated : Bool) (stream : List UInt8) (whole : headerSize ≤ stream.length)
    (magic : stream.head? = some restMagicNum) :
    EndsAlike sp R server client serverAllocated clientAllocated stream ↔
      TakesBody server client serverAllocated clientAllocated stream := by
  have read (cfg : Config) : (headerOf cfg stream).magic = restMagicNum := by
    obtain ⟨rest,rfl⟩ := List.head?_eq_some_iff.mp magic
    rw [headerOf,receivedHeader_magic]
    rfl
  exact and_congr (start_frameEnd_iff server serverAllocated stream whole (read server))
    (waitResponse_frameEnd_iff sp R client clientAllocated stream whole (read client))

def request : List UInt8 := image .little {functionId := 1,bodyLen := 4} ++ [97,98,99,100]

theorem request_endsAlike :
    EndsAlike (integerTuples : StructPack noStruct) none ⟨.little,false⟩ ⟨.little,false⟩ true true request :=
  (endsAlike_iff_takesBody _ _ _ _ _ _ _ (by decide) (by decide)).mpr (by unfold TakesBody; decide)

/-- A subscription with a body, which the server takes for the next header. -/
def subscription : List UInt8 := image .little {msgType := 1,functionId := 5,bodyLen := 4} ++ [97,98,99,100]

theorem subscription_not_endsAlike :
    start ⟨.little,false⟩ true subscription = some [97,98,99,100] ∧
      ¬EndsAlike (integerTuples : StructPack noStruct) none ⟨.little,false⟩ ⟨.little,false⟩ true true subscription := by
  have begins : start ⟨.little,false⟩ true subscription = some [97,98,99,100] := by decide
  refine ⟨begins,fun alike => ?_⟩
  have ends : frameEnd (headerOf ⟨.little,false⟩ subscription).bodyLen subscription = some [] := by decide
  rw [begins.symm.trans (alike.1.trans ends)] at begins
  exact absurd begins (by decide)

theorem mem_readOutcome (fails : Bool) (size : Nat) (stream body : List UInt8) :
    readOutcome fails size stream = some (some body) ↔
      fails = false ∧ size ≤ stream.length ∧ stream.take size = body := by
  unfold readOutcome
  cases fails with
  | true => simp
  | false => simp

theorem mem_frameRead (cfg : Config) (reads : Reads) (stream : List UInt8) (frame : RestRpcHeader × List UInt8) :
    frameRead cfg reads stream = some frame ↔
      (reads.headFails = false ∧ headerSize ≤ stream.length ∧ (headerOf cfg stream).magic = restMagicNum ∧
        resizes (headerOf cfg stream).bodyLen reads.allocated = true) ∧
      frame.1 = headerOf cfg stream ∧
      readOutcome reads.bodyFails (headerOf cfg stream).bodyLen.toNat (afterHeader stream) = some (some frame.2) := by
  constructor
  · intro found
    obtain ⟨head,read,found⟩ := Option.bind_eq_some_iff.mp found
    cases head with
    | none => cases found
    | some octets =>
      obtain ⟨headOk,whole,rfl⟩ := (mem_readOutcome _ _ _ _).mp read
      by_cases magic : (headerOf cfg stream).magic = restMagicNum
      · cases fits : resizes (headerOf cfg stream).bodyLen reads.allocated with
        | false =>
          simp only [afterHead_client,magic,fits] at found
          cases found
        | true =>
          simp only [afterHead_client,magic,fits,ne_eq,not_true_eq_false,if_false,if_true] at found
          obtain ⟨outcome,body,found⟩ := Option.bind_eq_some_iff.mp found
          obtain ⟨octets,rfl,found⟩ := Option.bind_eq_some_iff.mp found
          cases found
          exact ⟨⟨headOk,whole,magic,rfl⟩,rfl,body⟩
      · simp only [afterHead_client,ne_eq,magic,not_false_eq_true,if_true] at found
        cases found
  · rintro ⟨⟨headOk,whole,magic,fits⟩,same,body⟩
    obtain ⟨header,octets⟩ := frame
    obtain rfl : header = headerOf cfg stream := same
    have head := (mem_readOutcome reads.headFails headerSize stream _).mpr ⟨headOk,whole,rfl⟩
    simp only [frameRead,head,Option.bind_eq_bind,Option.bind_some,afterHead_client,magic,fits,ne_eq,
      not_true_eq_false,if_false,if_true,body]
    rfl

theorem payload_inside (header : RestRpcHeader) (positive : header.bodyLen ≠ 0) (body : List UInt8)
    (whole : body.length = header.bodyLen.toNat) :
    1 ≤ header.bodyLen ∧ 1 + (header.bodyLen - 1).toNat ≤ body.length := by
  have nonzero : header.bodyLen.toNat ≠ 0 := fun zero => positive (UInt64.toNat_inj.mp zero)
  have one : (1 : UInt64) ≤ header.bodyLen := UInt64.le_iff_toNat_le.mpr (by simp; omega)
  refine ⟨one,?_⟩
  rw [UInt64.toNat_sub_of_le _ _ one,whole]
  simp
  omega

/-- `wait_response` stays inside the body and reports a frame without a code exactly when it gets no
frame without a body as far as its decoding. -/
theorem payloadInside_iff (sp : StructPack env) (R : ReturnType env) (cfg : Config) (reads : Reads)
    (stream : List UInt8) : PayloadInside sp R cfg reads stream ↔ ¬DecodesEmpty cfg reads stream := by
  constructor
  · rintro inside ⟨headOk,whole,magic,zero,allocated,bodyOk⟩
    have read : frameRead cfg reads stream = some (headerOf cfg stream,[]) := by
      refine (mem_frameRead cfg reads stream _).mpr ⟨⟨headOk,whole,magic,?_⟩,rfl,?_⟩
      · rw [zero,allocated]
        decide
      · rw [zero,mem_readOutcome]
        exact ⟨bodyOk,Nat.zero_le _,List.take_zero⟩
    obtain ⟨view,reported⟩ := inside _ read
    cases R with
    | some type =>
      have one := (view rfl).1
      rw [zero] at one
      exact absurd one (by decide)
    | none => exact reported rfl rfl
  · intro decodes frame read
    obtain ⟨⟨headOk,whole,magic,fits⟩,same,body⟩ := (mem_frameRead cfg reads stream frame).mp read
    obtain ⟨bodyOk,follows,taken⟩ := (mem_readOutcome _ _ _ _).mp body
    have positive : frame.1.bodyLen ≠ 0 := by
      intro zero
      rw [same] at zero
      exact decodes ⟨headOk,whole,magic,zero,(Bool.and_eq_true _ _ ▸ fits).1,bodyOk⟩
    have filled : frame.2.length = frame.1.bodyLen.toNat := by
      rw [← taken,same,List.length_take,Nat.min_eq_left follows]
    refine ⟨fun _ => payload_inside frame.1 positive frame.2 filled,fun nothing => ?_⟩
    rw [nothing] at filled
    exact absurd (UInt64.toNat_inj.mp filled.symm) positive

theorem empty_not_inside :
    let header : RestRpcHeader := {}
    frameRead ⟨.little,false⟩ {} (image .little header) = some (header,[]) ∧ (header.bodyLen - 1).toNat = 2^64 - 1 ∧
      ¬PayloadInside (integerTuples : StructPack noStruct) (some .string) ⟨.little,false⟩ {} (image .little header) := by
  intro header
  have read : frameRead ⟨.little,false⟩ {} (image .little header) = some (header,[]) := by decide
  refine ⟨read,by decide,fun inside => ?_⟩
  exact absurd ((inside _ read).1 rfl).1 (by decide)

theorem wholeFrame_afterHeader (headOk : reads.headFails = false)
    (refused : ¬((headerOf cfg stream).magic = restMagicNum ∧
      resizes (headerOf cfg stream).bodyLen reads.allocated = true)) :
    WholeFrame cfg stream (.connected (afterHeader stream)) ↔ ReadsBody cfg reads stream := by
  simp only [WholeFrame,frameEnd_afterHeader,ReadsBody,headOk,refused,Bool.false_eq_true,false_or,or_false]

theorem wholeFrame_body {exit : Exit} {octets : List UInt8}
    (head : readOutcome reads.headFails headerSize stream = some (some octets))
    (magic : (headerOf cfg stream).magic = restMagicNum)
    (fits : resizes (headerOf cfg stream).bodyLen reads.allocated = true)
    (done : waitResponse sp R cfg reads stream = some exit) : WholeFrame cfg stream exit := by
  obtain ⟨-,-,rfl⟩ := (mem_readOutcome _ _ _ _).mp head
  simp only [waitResponse,head,Option.bind_eq_bind,Option.bind_some,afterHead_client,magic,fits,ne_eq,
    not_true_eq_false,if_false,if_true] at done
  obtain ⟨outcome,body,done⟩ := Option.bind_eq_some_iff.mp done
  cases outcome with
  | none =>
    cases done
    trivial
  | some octets =>
    obtain ⟨-,follows,-⟩ := (mem_readOutcome _ _ _ _).mp body
    -- The read has taken the body before anything is decoded.
    cases ended : Client.afterBody sp R (headerOf cfg stream) (some octets) with
    | readError => exact absurd ended (afterBody_read sp R _ _)
    | outside =>
      simp only [ended] at done
      cases done
      exact if_pos follows
    | threw what =>
      simp only [ended] at done
      cases done
      exact if_pos follows
    | returned result =>
      simp only [ended] at done
      cases done
      exact if_pos follows

/-- When `wait_response` is done, it has consumed one frame or closed the socket exactly when no
part of a body was left to the next read. -/
theorem wholeFrame_iff_readsBody (sp : StructPack env) (R : ReturnType env) (cfg : Config) (reads : Reads)
    (stream : List UInt8) (exit : Exit) (done : waitResponse sp R cfg reads stream = some exit) :
    WholeFrame cfg stream exit ↔ ReadsBody cfg reads stream := by
  obtain ⟨head,read,ends⟩ := Option.bind_eq_some_iff.mp done
  cases head with
  | none =>
    cases ends
    have fails : reads.headFails = true := by
      by_contra holds
      simp [readOutcome,holds] at read
    exact ⟨fun _ => .inl fails,fun _ => trivial⟩
  | some octets =>
    obtain ⟨headOk,-,rfl⟩ := (mem_readOutcome _ _ _ _).mp read
    by_cases magic : (headerOf cfg stream).magic = restMagicNum
    · cases fits : resizes (headerOf cfg stream).bodyLen reads.allocated with
      | false =>
        simp only [afterHead_client,magic,fits] at ends
        cases ends
        exact wholeFrame_afterHeader headOk (by simp [fits])
      | true => exact iff_of_true (wholeFrame_body read magic fits done) (.inr (.inr ⟨magic,fits⟩))
    · simp only [afterHead_client,ne_eq,magic,not_false_eq_true,if_true] at ends
      cases ends
      exact wholeFrame_afterHeader headOk fun both => magic both.1

theorem request_wholeFrame : WholeFrame ⟨.little,false⟩ request (.connected []) :=
  (wholeFrame_iff_readsBody (integerTuples : StructPack noStruct) none ⟨.little,false⟩ {} request _ (by decide)).mpr
    (by unfold ReadsBody; decide)

def foreign : List UInt8 := image .little {magic := 40,bodyLen := 4} ++ [97,98,99,100]

theorem foreign_not_wholeFrame :
    waitResponse (integerTuples : StructPack noStruct) none ⟨.little,false⟩ {} foreign =
        some (.connected [97,98,99,100]) ∧
      ¬WholeFrame ⟨.little,false⟩ foreign (.connected [97,98,99,100]) := by
  refine ⟨by decide,fun whole => ?_⟩
  have ends : frameEnd (headerOf ⟨.little,false⟩ foreign).bodyLen foreign = some [97,98,99,100] := whole
  exact absurd ends (by decide)

end RestRpc.FrameEnds
