import RestRpc.Automaton
import RestRpc.Connection
import RestRpc.Writes

/-! The writers of one server connection: its read loop, the contexts that respond to its requests
and the running calls of `publish`. Each awaits one `response` at a time, but none of them waits for
another. After an error or a close no octet gets on the socket. -/
namespace RestRpc.ResponseFrames
open Automaton ErrorCode Codec Router Connection Writes

inductive Writer
  | readLoop
  | context (k : Nat)
  | publisher (p : Nat)
  deriving DecidableEq,Repr

structure State where
  socketOpen : Bool := true
  wire : Wire UInt8 := {}
  waiting : Writer → Option Nat := fun _ => none

inductive Event
  | response (writer : Writer) (result : RpcResult) (funcId : UInt32)
  | sent (writer : Writer) (n : Nat)
  | completed (writer : Writer)
  | failed (writer : Writer)
  | close

def State.release (state : State) (writer : Writer) : State :=
  {state with waiting := Function.update state.waiting writer none}

def respond (cfg : Config) (state : State) (writer : Writer) (result : RpcResult) (funcId : UInt32) : State :=
  {state with
    wire := state.wire.start (response cfg result funcId)
    waiting := Function.update state.waiting writer (some state.wire.writes.length)}

def step (cfg : Config) (state : State) : Event → Option State
  | .response writer result funcId =>
    if (state.waiting writer).isNone then some (respond cfg state writer result funcId) else none
  | .sent writer n => do
    let k ← state.waiting writer
    let write ← state.wire.writes[k]?
    if state.socketOpen = true ∧ 0 < n ∧ write.offset+n ≤ write.frame.length then
      some {state with wire := state.wire.advance k write n}
    else none
  | .completed writer => do
    let k ← state.waiting writer
    let write ← state.wire.writes[k]?
    if write.offset = write.frame.length then some (state.release writer) else none
  | .failed writer =>
    if (state.waiting writer).isSome then some {state.release writer with socketOpen := false} else none
  | .close => some {state with socketOpen := false}

/-- Complete response frames, and then at most the beginning of one. -/
def WellFramed (cfg : Config) (wire : Wire UInt8) : Prop :=
  wire.Whole ∧ ∀ write ∈ wire.writes, ∃ result funcId, write.frame = response cfg result funcId

/-- A response starts on an open socket only when every frame before it is out. -/
def Alone (state : State) : Event → Prop
  | .response .. => state.socketOpen = true → ∀ write ∈ state.wire.writes, write.offset = write.frame.length
  | _ => True

instance Alone.decide (state : State) (event : Event) : Decidable (Alone state event) := by
  unfold Alone
  split <;> infer_instance

inductive Step (cfg : Config) (state : State) : Event → State → Prop
  | response (writer : Writer) (result : RpcResult) (funcId : UInt32) (free : state.waiting writer = none) :
      Step cfg state (.response writer result funcId) (respond cfg state writer result funcId)
  | sent (writer : Writer) (n k : Nat) (write : Write UInt8) (waits : state.waiting writer = some k)
      (held : state.wire.writes[k]? = some write) (isOpen : state.socketOpen = true) (more : 0 < n)
      (fits : write.offset+n ≤ write.frame.length) :
      Step cfg state (.sent writer n) {state with wire := state.wire.advance k write n}
  | completed (writer : Writer) (k : Nat) (write : Write UInt8) (waits : state.waiting writer = some k)
      (held : state.wire.writes[k]? = some write) (whole : write.offset = write.frame.length) :
      Step cfg state (.completed writer) (state.release writer)
  | failed (writer : Writer) : Step cfg state (.failed writer) {state.release writer with socketOpen := false}
  | close : Step cfg state .close {state with socketOpen := false}

theorem step_cases (cfg : Config) (state next : State) (event : Event)
    (taken : step cfg state event = some next) : Step cfg state event next := by
  cases event with
  | response writer result funcId =>
    obtain ⟨free,rfl⟩ := ite_some taken
    exact .response writer result funcId (Option.isNone_iff_eq_none.mp free)
  | sent writer n =>
    obtain ⟨k,waits,rest⟩ := Option.bind_eq_some_iff.mp taken
    obtain ⟨write,held,rest⟩ := Option.bind_eq_some_iff.mp rest
    obtain ⟨able,rfl⟩ := ite_some rest
    exact .sent writer n k write waits held able.1 able.2.1 able.2.2
  | completed writer =>
    obtain ⟨k,waits,rest⟩ := Option.bind_eq_some_iff.mp taken
    obtain ⟨write,held,rest⟩ := Option.bind_eq_some_iff.mp rest
    obtain ⟨whole,rfl⟩ := ite_some rest
    exact .completed writer k write waits held whole
  | failed writer =>
    obtain ⟨-,rfl⟩ := ite_some taken
    exact .failed writer
  | close =>
    cases taken
    exact .close

/-- What holds in every run. A frame that is not out has a writer behind it, as long as the
socket is open. -/
structure Sound (cfg : Config) (state : State) : Prop where
  counted : Counted state.wire
  frames : ∀ write ∈ state.wire.writes, ∃ result funcId, write.frame = response cfg result funcId
  attended : state.socketOpen = true → ∀ (k : Nat) (write : Write UInt8), state.wire.writes[k]? = some write →
    write.offset < write.frame.length → ∃ writer, state.waiting writer = some k
  bounded : ∀ write ∈ state.wire.writes, write.offset ≤ write.frame.length

structure Orderly (state : State) : Prop where
  serial : Serial state.wire
  ready : state.socketOpen = true → Ready state.wire.writes

theorem sound_initial (cfg : Config) : Sound cfg {} where
  counted _ := rfl
  frames _ member := by cases member
  attended _ _ _ held := by simp at held
  bounded _ member := by cases member

theorem Sound.respond {cfg : Config} {state : State} (sound : Sound cfg state) (writer : Writer)
    (result : RpcResult) (funcId : UInt32) (free : state.waiting writer = none) :
    Sound cfg (respond cfg state writer result funcId) where
  counted := sound.counted.start _
  frames write member := by
    rcases List.mem_append.mp member with old | new
    · exact sound.frames write old
    · rw [List.mem_singleton.mp new]
      exact ⟨result,funcId,rfl⟩
  attended isOpen k write held unsent := by
    rcases Nat.lt_or_ge k state.wire.writes.length with old | new
    · have held : state.wire.writes[k]? = some write := by
        simpa [ResponseFrames.respond,Wire.start,List.getElem?_append_left old] using held
      obtain ⟨other,waits⟩ := sound.attended isOpen k write held unsent
      have differs : other ≠ writer := by
        rintro rfl
        cases free.symm.trans waits
      exact ⟨other,by simpa [ResponseFrames.respond,differs] using waits⟩
    · have bound := (List.getElem?_eq_some_iff.mp held).1
      simp only [ResponseFrames.respond,Wire.start,List.length_append,List.length_singleton] at bound
      obtain rfl : k = state.wire.writes.length := by omega
      exact ⟨writer,by simp [ResponseFrames.respond]⟩
  bounded write member := by
    rcases List.mem_append.mp member with old | new
    · exact sound.bounded write old
    · rw [List.mem_singleton.mp new]
      exact Nat.zero_le _

theorem Sound.advance {cfg : Config} {state : State} (sound : Sound cfg state) (k n : Nat)
    (write : Write UInt8) (held : state.wire.writes[k]? = some write)
    (fits : write.offset+n ≤ write.frame.length) :
    Sound cfg {state with wire := state.wire.advance k write n} where
  counted := sound.counted.advance k n write held fits
  frames other member := by
    rcases List.mem_or_eq_of_mem_set member with old | rfl
    · exact sound.frames other old
    · exact sound.frames write (List.mem_of_getElem? held)
  attended isOpen j other now unsent := by
    simp only [Wire.advance,List.getElem?_set] at now
    split at now
    · rename_i same
      subst same
      split at now
      · cases now
        exact sound.attended isOpen k write held (Nat.lt_of_le_of_lt (Nat.le_add_right _ n) unsent)
      · cases now
    · exact sound.attended isOpen j other now unsent
  bounded other member := by
    rcases List.mem_or_eq_of_mem_set member with old | rfl
    · exact sound.bounded other old
    · exact fits

theorem Sound.shut {cfg : Config} {state next : State} (sound : Sound cfg state) (wire : next.wire = state.wire)
    (closed : next.socketOpen = false) : Sound cfg next where
  counted := by rw [wire]; exact sound.counted
  frames := by rw [wire]; exact sound.frames
  attended isOpen := by cases closed.symm.trans isOpen
  bounded := by rw [wire]; exact sound.bounded

theorem sound_step (cfg : Config) (state : State) (event : Event) (next : State) (sound : Sound cfg state)
    (taken : step cfg state event = some next) : Sound cfg next := by
  cases step_cases cfg state next event taken with
  | response writer result funcId free => exact sound.respond writer result funcId free
  | sent writer n k write waits held isOpen more fits => exact sound.advance k n write held fits
  | completed writer k write waits held whole =>
    refine ⟨sound.counted,sound.frames,fun isOpen j other now unsent => ?_,sound.bounded⟩
    obtain ⟨behind,awaits⟩ := sound.attended isOpen j other now unsent
    have differs : behind ≠ writer := by
      rintro rfl
      cases waits.symm.trans awaits
      cases held.symm.trans now
      omega
    exact ⟨behind,by simpa [State.release,differs] using awaits⟩
  | failed => exact sound.shut rfl rfl
  | close => exact sound.shut rfl rfl

theorem orderly_step (cfg : Config) (state : State) (event : Event) (next : State) (orderly : Orderly state)
    (alone : Alone state event) (taken : step cfg state event = some next) : Orderly next := by
  cases step_cases cfg state next event taken with
  | response writer result funcId free =>
    refine ⟨orderly.serial.start _,fun isOpen => .inr ⟨state.wire.writes,_,rfl,alone isOpen⟩⟩
  | sent writer n k write waits held isOpen more fits =>
    obtain ⟨serial,ready⟩ := orderly.serial.advance (orderly.ready isOpen) k n write held more fits
    exact ⟨serial,fun _ => ready⟩
  | completed => exact ⟨orderly.serial,orderly.ready⟩
  | failed => exact ⟨orderly.serial,fun isOpen => by cases isOpen⟩
  | close => exact ⟨orderly.serial,fun isOpen => by cases isOpen⟩

theorem response_length (cfg : Config) (result : RpcResult) (funcId : UInt32) :
    1 < (response cfg result funcId).length := by
  simp only [response_octets,List.length_append,sentHeader_length,List.length_cons,Protocol.headerSize]
  omega

theorem begin_write (cfg : Config) (state : State) (sound : Sound cfg state) (isOpen : state.socketOpen = true)
    (writer : Writer) (k : Nat) (write : Write UInt8) (waits : state.waiting writer = some k)
    (held : state.wire.writes[k]? = some write) (unsent : write.offset < write.frame.length) :
    ∃ events next after, run (step cfg) state events = some next ∧ Sound cfg next ∧
      next.socketOpen = true ∧ next.waiting = state.waiting ∧ next.wire.writes = state.wire.writes.set k after ∧
      after.frame = write.frame ∧ 0 < after.offset ∧ after.offset < after.frame.length := by
  obtain ⟨result,funcId,frame⟩ := sound.frames write (List.mem_of_getElem? held)
  have long : 1 < write.frame.length := by
    rw [frame]
    exact response_length cfg result funcId
  rcases Nat.eq_zero_or_pos write.offset with zero | begun
  · have fits : write.offset+1 ≤ write.frame.length := unsent
    refine ⟨[.sent writer 1],_,{write with offset := write.offset+1},?_,sound.advance k 1 write held fits,
      isOpen,rfl,rfl,rfl,Nat.succ_pos _,?_⟩
    · simp only [run,step,waits,held,Option.bind_eq_bind,Option.bind_some,isOpen,Nat.zero_lt_one,fits,and_self,if_true]
    · simpa [zero] using long
  · refine ⟨[],state,write,rfl,sound,isOpen,rfl,?_,rfl,begun,unsent⟩
    have bound := (List.getElem?_eq_some_iff.mp held).1
    have own : state.wire.writes[k] = write := (List.getElem_eq_iff bound).mpr held
    rw [← own,List.set_getElem_self]

theorem split_after (cfg : Config) (state next : State) (writer : Writer) (result : RpcResult)
    (funcId : UInt32) (sound : Sound cfg state) (overlaps : ¬Alone state (.response writer result funcId))
    (taken : step cfg state (.response writer result funcId) = some next) :
    ∃ events final, run (step cfg) next events = some final ∧ ¬final.wire.Whole := by
  obtain ⟨isOpen,write,member,incomplete⟩ : state.socketOpen = true ∧
      ∃ write ∈ state.wire.writes, write.offset ≠ write.frame.length := by simpa [Alone] using overlaps
  have unsent : write.offset < write.frame.length := Nat.lt_of_le_of_ne (sound.bounded write member) incomplete
  obtain ⟨k,held⟩ := List.getElem?_of_mem member
  have bound := (List.getElem?_eq_some_iff.mp held).1
  obtain ⟨other,waits⟩ := sound.attended isOpen k write held unsent
  cases step_cases cfg state next _ taken with
  | response _ _ _ free =>
    have differs : other ≠ writer := by
      rintro rfl
      cases free.symm.trans waits
    have started := sound.respond writer result funcId free
    obtain ⟨first,middle,after,ranFirst,soundFirst,openFirst,waitingFirst,writesFirst,-,begun,unfinished⟩ :=
      begin_write cfg _ started isOpen other k write (by simpa [respond,differs] using waits)
        (by simpa [respond,Wire.start,List.getElem?_append_left bound] using held) unsent
    have own : middle.wire.writes[state.wire.writes.length]? = some ⟨response cfg result funcId,0⟩ := by
      rw [writesFirst,List.getElem?_set_ne (Nat.ne_of_lt bound)]
      simp [respond,Wire.start]
    obtain ⟨second,final,last,ranSecond,soundLast,-,-,writesLast,-,begunLast,unfinishedLast⟩ :=
      begin_write cfg middle soundFirst openFirst writer _ ⟨response cfg result funcId,0⟩
        (by simp [waitingFirst,respond]) own (Nat.lt_of_succ_lt (response_length cfg result funcId))
    have inside := (List.getElem?_eq_some_iff.mp own).1
    refine ⟨first ++ second,final,(run_append ..).mpr ⟨middle,ranFirst,ranSecond⟩,?_⟩
    apply soundLast.counted.not_whole k state.wire.writes.length after last (Nat.ne_of_lt bound)
    · rw [writesLast,List.getElem?_set_ne (Nat.ne_of_gt bound),writesFirst]
      simp [respond,Wire.start,Nat.lt_succ_of_lt bound]
    · rw [writesLast,List.getElem?_set_self inside]
    · exact begun
    · exact unfinished
    · exact begunLast
    · exact unfinishedLast

/-- As long as responses start alone, frames stay whole. Where one does not, a schedule of partial
writes splits a frame. -/
theorem well_framed_alone (cfg : Config) (events : List Event) :
    (∀ early later middle, Guarded (step cfg) Alone {} events → events = early ++ later →
      run (step cfg) {} early = some middle → WellFramed cfg middle.wire) ∧
    ∀ middle next writer result funcId, run (step cfg) {} events = some middle →
      step cfg middle (.response writer result funcId) = some next →
      ¬Alone middle (.response writer result funcId) →
      ∃ more final, run (step cfg) next more = some final ∧ ¬WellFramed cfg final.wire := by
  have sound (events : List Event) (state : State) (ran : run (step cfg) {} events = some state) :
      Sound cfg state := run_invariant (Sound cfg) (sound_step cfg) events {} state (sound_initial cfg) ran
  constructor
  · intro early later middle admitted split reached
    rw [split] at admitted
    have orderly : Orderly middle := run_guarded Orderly (orderly_step cfg) early {} middle
      ⟨⟨trivial,rfl⟩,fun _ => .inl rfl⟩ (guarded_append _ _ _ admitted) reached
    exact ⟨whole_of_sequential _ orderly.serial.sequential orderly.serial.sent,(sound early middle reached).frames⟩
  · intro middle next writer result funcId reached taken overlaps
    obtain ⟨more,final,ran,torn⟩ :=
      split_after cfg middle next writer result funcId (sound events middle reached) overlaps taken
    exact ⟨more,final,ran,fun framed => torn framed.1⟩

theorem well_framed_in_turn :
    let cfg : Config := ⟨.little,false⟩
    let result := packed .ok Text.empty
    let events := [.response .readLoop result 0,.sent .readLoop 20,.sent .readLoop 13,.completed .readLoop,
      .response (.publisher 0) result 5]
    (∃ middle, run (step cfg) {} events = some middle ∧ WellFramed cfg middle.wire) ∧
      ∃ middle next, run (step cfg) {} events = some middle ∧
        step cfg middle (.response .readLoop result 0) = some next ∧
        ∃ more final, run (step cfg) next more = some final ∧ ¬WellFramed cfg final.wire := by
  intro cfg result events
  obtain ⟨framed,torn⟩ := well_framed_alone cfg events
  have admitted : Guarded (step cfg) Alone {} events := by decide +kernel
  have reached : (run (step cfg) {} events).map (fun middle => middle.wire.writes.map (·.offset)) =
      some [33,0] := by decide +kernel
  have enabled : ((run (step cfg) {} events).bind (step cfg · (.response .readLoop result 0))).isSome = true := by
    decide +kernel
  have overlaps : (run (step cfg) {} events).all
      (fun middle => !decide (Alone middle (.response .readLoop result 0))) = true := by decide +kernel
  obtain ⟨middle,ran,-⟩ := Option.map_eq_some_iff.mp reached
  obtain ⟨next,taken⟩ := Option.isSome_iff_exists.mp enabled
  rw [ran,Option.bind_some] at taken
  rw [ran] at overlaps
  refine ⟨⟨middle,ran,framed events [] middle admitted (by simp) ran⟩,middle,next,ran,taken,?_⟩
  exact torn middle next .readLoop result 0 ran taken (by simpa using overlaps)

/-- A response of the read loop is half out when a published message comes between. -/
theorem message_inside_response :
    let cfg : Config := ⟨.little,false⟩
    let result := packed .ok Text.empty
    ∃ final, run (step cfg) {} [.response .readLoop result 0,.response (.publisher 0) result 5,
        .sent .readLoop 20,.sent (.publisher 0) 20] = some final ∧
      final.wire.sent.map (·.1) = List.replicate 20 0 ++ List.replicate 20 1 ∧
      ¬WellFramed cfg final.wire := by
  intro cfg result
  have logged : (run (step cfg) {} [.response .readLoop result 0,.response (.publisher 0) result 5,
      .sent .readLoop 20,.sent (.publisher 0) 20]).map (fun final => (final.wire.sent.map (·.1),
        final.wire.writes.map fun write => (write.offset,write.frame.length))) =
      some (List.replicate 20 0 ++ List.replicate 20 1,[(20,33),(20,33)]) := by decide +kernel
  obtain ⟨final,ran,observed⟩ := Option.map_eq_some_iff.mp logged
  have sound := run_invariant (Sound cfg) (sound_step cfg) _ {} final (sound_initial cfg) ran
  obtain ⟨tags,offsets⟩ := Prod.mk.injEq .. ▸ observed
  have partly (k : Nat) (bound : k < 2) : ∃ write, final.wire.writes[k]? = some write ∧
      write.offset = 20 ∧ write.frame.length = 33 := by
    have entry : (final.wire.writes.map fun write => (write.offset,write.frame.length))[k]? = some (20,33) := by
      rw [offsets]
      match k,bound with
      | 0,_ => rfl
      | 1,_ => rfl
    simpa using entry
  obtain ⟨first,held,offset,length⟩ := partly 0 (by decide)
  obtain ⟨second,also,offsetAlso,lengthAlso⟩ := partly 1 (by decide)
  refine ⟨final,ran,tags,fun framed => ?_⟩
  exact sound.counted.not_whole 0 1 first second (by decide) held also (by omega) (by omega) (by omega)
    (by omega) framed.1

end RestRpc.ResponseFrames
