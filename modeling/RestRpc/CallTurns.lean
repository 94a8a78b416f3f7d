import RestRpc.CallLine
import RestRpc.IntegerTuples

/-! Calls that overlap, and which of their runs keep every response for its own call. -/
namespace RestRpc.CallTurns
open Automaton Protocol ErrorCode Codec Router Writes OverlappingCalls CallLine IntegerTuples
open Connection hiding afterHead afterBody
open Client hiding afterHead afterBody
open Session (Outcome)
open OwnResponse (Answered)

variable {env : TypeEnv}

/-- Calls that are past, and the order that holds as long as the socket is open. -/
structure Sound (sp : StructPack env) (cfg : Config) (state : State env) : Prop where
  outcomes : ∀ k outcome, state.point k = some (.done outcome) → Answered sp state.answers k outcome
  results : ∀ k outcome, (k,outcome) ∈ state.results → Answered sp state.answers k outcome
  ordered : state.isOpen = true → Ordered cfg state

theorem sound_initial (sp : StructPack env) (cfg : Config) : Sound sp cfg {} where
  outcomes k outcome held := by simp [State.point] at held
  results _ _ member := by cases member
  ordered _ := by
    refine ⟨0,0,none,none,⟨rfl,inTurn_initial,?_,Nat.le_refl _,rfl,trivial⟩,⟨Nat.le_refl _,rfl,?_,?_⟩,
      ⟨rfl,rfl,?_,?_,?_⟩⟩
    · rintro k (member | held)
      · cases member
      · simp [State.point] at held
    · intro k member
      cases member
    · intro k member
      cases member
    · intro k ec text held
      cases held
    · intro k held
      cases held
    · intro k ec text member
      cases member

section sound
variable {sp : StructPack env} {cfg : Config} {state : State env}

theorem Sound.keep (sound : Sound sp cfg state) (next : State env) (grows : state.answers ⊆ next.answers)
    (points : ∀ k outcome, next.point k = some (.done outcome) →
      state.point k = some (.done outcome) ∨ Answered sp next.answers k outcome)
    (results : ∀ k outcome, (k,outcome) ∈ next.results →
      (k,outcome) ∈ state.results ∨ Answered sp next.answers k outcome)
    (ordered : next.isOpen = true → Ordered cfg next) : Sound sp cfg next where
  outcomes k outcome held :=
    (points k outcome held).elim (fun was => (sound.outcomes k outcome was).more grows) id
  results k outcome member :=
    (results k outcome member).elim (fun was => (sound.results k outcome was).more grows) id
  ordered := ordered

theorem Sound.move (sound : Sound sp cfg state) (next : State env) (k : Nat) (target : Point env)
    (moved : Moved state next k target)
    (answered : ∀ outcome, target = .done outcome → Answered sp next.answers k outcome)
    (answers : next.answers = state.answers) (results : next.results = state.results)
    (ordered : next.isOpen = true → Ordered cfg next) : Sound sp cfg next := by
  refine sound.keep next (by rw [answers]; exact fun _ => id) (fun j outcome held => ?_)
    (fun j outcome member => .inl (results ▸ member)) ordered
  obtain ⟨rfl,same,-⟩ | ⟨-,was⟩ := moved.inv held
  · exact .inr (answered outcome same.symm)
  · exact .inl was

theorem Sound.call (sound : Sound sp cfg state) (R : ReturnType env) (functionId : UInt32)
    (buf : Option Text) : Sound sp cfg (state.call cfg R functionId buf) := by
  have added (call : CallFor env) (frame : List UInt8) (started : ∀ outcome, call.point ≠ .done outcome)
      (new : call.point = .writing → ∃ functionId buf, frame = callImpl cfg (callHeader functionId) buf) :
      Sound sp cfg (state.add call frame) := by
    refine sound.keep _ (fun _ => id) (fun k outcome held => ?_) (fun _ _ => .inl) fun isOpen => ?_
    · rcases point_add_inv call frame k _ held with was | ⟨-,point⟩
      · exact .inl was
      · exact absurd point (started outcome)
    · obtain ⟨served,heads,current,next,requests,line,reading⟩ := sound.ordered isOpen
      exact ⟨served,heads,current,next,requests.add call frame new,
        line.add requests.same requests.turn call frame,reading.add call frame⟩
  cases buf with
  | none => exact added ⟨R,.threw,true⟩ [] (by simp) (by simp)
  | some buf => exact added ⟨R,.writing,true⟩ _ (by simp) fun _ => ⟨functionId,buf,rfl⟩

theorem Sound.send (sound : Sound sp cfg state) (k n : Nat) (write : Write UInt8)
    (writing : state.point k = some .writing) (held : state.wire.writes[k]? = some write) (more : 0 < n)
    (fits : write.offset + n ≤ write.frame.length) (turns : Turns state (.send k n)) :
    Sound sp cfg (state.send k write n) := by
  refine sound.keep _ (fun _ => id) (fun _ _ => .inl) (fun _ _ => .inl) fun isOpen => ?_
  obtain ⟨served,heads,current,next,requests,line,reading⟩ := sound.ordered isOpen
  exact ⟨served,heads,current,next,requests.send k n write writing held more fits turns,
    line.send requests.bound k n write writing,reading.send k n write⟩

theorem Sound.wrote (sound : Sound sp cfg state) (k : Nat) (writing : state.point k = some .writing)
    (complete : state.wire.offset k = (state.wire.frame k).length) (turns : Turns state (.wrote k)) :
    Sound sp cfg ({state with reads := state.reads ++ [k]}.setPoint k .readHead) := by
  have moved : Moved state ({state with reads := state.reads ++ [k]}.setPoint k .readHead) k .readHead :=
    moved_setPoint _ k _
  refine sound.move _ k _ moved (fun outcome same => by cases same) rfl rfl fun isOpen => ?_
  obtain ⟨served,heads,current,next,requests,line,reading⟩ := sound.ordered isOpen
  have begun : k ∈ state.order := by
    obtain ⟨functionId,buf,frame⟩ := requests.written k (.inr writing)
    apply (requests.turn.begun k).mpr
    rw [complete,frame,callImpl_length,headerSize]
    omega
  have all (j : Nat) (member : j ∈ state.order) : ∃ point, state.point j = some point := by
    have bound := requests.turn.listed j member
    rw [← requests.same] at bound
    exact ⟨_,by rw [State.point,List.getElem?_eq_getElem bound,Option.map_some]⟩
  have first := line.first k begun writing all turns
  refine ⟨served,heads,current,some k,?_,?_,?_⟩
  · exact requests.move moved (by simp) (by simp [State.setPoint]) rfl rfl rfl rfl
  · refine line.move moved (fun early => ?_) (fun _ => rfl) rfl rfl rfl
    cases line.before k early .writing writing
  · exact reading.wrote k _ writing first moved rfl rfl rfl rfl rfl rfl

theorem Sound.fail (sound : Sound sp cfg state) (k : Nat) (call : CallFor env) (point : Point env)
    (fails : failed call.R call.point = some point) :
    Sound sp cfg ({state with
      isOpen := false
      reads := state.reads.erase k}.setPoint k point) := by
  refine sound.move _ k point (moved_setPoint _ k _) (fun outcome same => ?_) rfl rfl
    fun isOpen => by cases isOpen
  subst same
  unfold failed at fails
  split at fails
  · cases fails
    exact fun ok => by cases ok
  · cases fails
    exact fun ok => by cases ok
  · cases fails
    exact fun ok => by cases ok
  · cases fails

theorem Sound.expire (sound : Sound sp cfg state) (k : Nat) (call : CallFor env)
    (held : state.calls[k]? = some call) :
    Sound sp cfg {state with
      isOpen := false
      reads := state.reads.erase k
      calls := state.calls.set k {call with point := expired call.point,armed := false}} := by
  refine sound.move _ k (expired call.point) (moved_set _ false held rfl) (fun outcome same => ?_) rfl rfl
    fun isOpen => by cases isOpen
  cases point : call.point with
  | done was =>
    rw [point] at same
    cases same
    exact sound.outcomes k outcome (by rw [State.point,held,Option.map_some,point])
  | _ =>
    rw [point] at same
    cases same

theorem Sound.ret (sound : Sound sp cfg state) (k : Nat) (call : CallFor env) (outcome : Outcome env)
    (held : state.calls[k]? = some call) (ends : outcomeOf call.R call.point = some outcome) :
    Sound sp cfg {state with
      calls := state.calls.set k {call with point := .returned,armed := false}
      results := (k,outcome)::state.results} := by
  have at_ : state.point k = some call.point := by rw [State.point,held,Option.map_some]
  have moved : Moved state {state with
      calls := state.calls.set k {call with point := .returned,armed := false}
      results := (k,outcome)::state.results} k .returned := moved_set _ false held rfl
  refine sound.keep _ (fun _ => id) (fun j other was => ?_) (fun j other member => ?_) fun isOpen => ?_
  · obtain ⟨-,same,-⟩ | ⟨-,was⟩ := moved.inv was
    · cases same
    · exact .inl was
  · rcases List.mem_cons.mp member with new | old
    · cases new
      right
      unfold outcomeOf at ends
      split at ends
      · rename_i point
        cases ends
        exact sound.outcomes k outcome (by rw [at_,point])
      · cases ends
        exact fun ok => by cases ok
      · cases ends
    · exact .inl old
  · refine (sound.ordered isOpen).settle k call.point .returned moved at_ ?_ ?_ rfl (by simp) rfl rfl rfl rfl rfl
      rfl rfl rfl rfl rfl
    · unfold outcomeOf at ends
      split at ends
      · rename_i point
        rw [point]
        rfl
      · rename_i point
        rw [point]
        rfl
      · cases ends
    · rintro header point
      rw [point] at ends
      cases ends

theorem Sound.head (sound : Sound sp cfg state) (k : Nat) (call : CallFor env) (reads : List Nat)
    (after : State env) (pending : state.reads = k::reads) (held : state.calls[k]? = some call)
    (point : call.point = .readHead) (isOpen : state.isOpen = true)
    (enough : headerSize ≤ state.down.length) (read : afterHead cfg state k call.R reads = some after) :
    Sound sp cfg after := by
  obtain ⟨ordered,header,moved,answers,results⟩ :=
    head_ordered (sound.ordered isOpen) k call reads after pending held point enough read
  exact sound.move after k _ moved (fun outcome same => by cases same) answers results fun _ => ordered

theorem Sound.body (sound : Sound sp cfg state) (k : Nat) (call : CallFor env) (header : RestRpcHeader)
    (reads : List Nat) (after : State env) (pending : state.reads = k::reads)
    (held : state.calls[k]? = some call) (point : call.point = .readBody header)
    (isOpen : state.isOpen = true) (read : afterBody sp state k call.R header reads = some after) :
    Sound sp cfg after := by
  obtain ⟨ordered,target,moved,answered,answers,results⟩ :=
    body_ordered (sound.ordered isOpen) k call header reads after pending held point read
  refine sound.move after k target moved (fun outcome same => ?_) answers results fun _ => ordered
  rw [answers]
  exact answered outcome same

theorem Sound.serve (sound : Sound sp cfg state) (after : State env) (calls : after.calls = state.calls)
    (answers : after.answers = state.answers) (results : after.results = state.results)
    (isOpen : after.isOpen = state.isOpen) (ordered : Ordered cfg state → Ordered cfg after) :
    Sound sp cfg after := by
  refine sound.keep after (by rw [answers]; exact fun _ => id) (fun k outcome held => .inl ?_)
    (fun k outcome member => .inl (results ▸ member)) fun still => ordered (sound.ordered (isOpen ▸ still))
  rwa [State.point,calls] at held

theorem Sound.answer (sound : Sound sp cfg state) (i : Nat) (request : Option Nat) (ec : RpcErrc)
    (text : Text) (waits : state.unanswered[i]? = some request) (turns : Turns state (.answer i ec text)) :
    Sound sp cfg (answer cfg state i request ec text) := by
  refine sound.keep _ (List.subset_append_right _ _) (fun _ _ => .inl) (fun _ _ => .inl) fun isOpen => ?_
  have first : i = 0 := turns isOpen
  subst first
  exact answer_ordered (sound.ordered isOpen) request ec text waits

theorem afterServeHead_same (cfg : Config) (state : State env) :
    (afterServeHead cfg state).calls = state.calls ∧ (afterServeHead cfg state).answers = state.answers ∧
      (afterServeHead cfg state).results = state.results ∧ (afterServeHead cfg state).isOpen = state.isOpen := by
  unfold afterServeHead
  dsimp only
  split
  · exact ⟨rfl,rfl,rfl,rfl⟩
  · exact ⟨rfl,rfl,rfl,rfl⟩
  · exact ⟨rfl,rfl,rfl,rfl⟩
  · exact ⟨rfl,rfl,rfl,rfl⟩

end sound

theorem sound_step (sp : StructPack env) (cfg : Config) (state : State env) (event : Event env)
    (next : State env) (sound : Sound sp cfg state) (turns : Turns state event)
    (taken : step sp cfg state event = some next) : Sound sp cfg next := by
  cases event with
  | call R functionId buf =>
    cases taken
    exact sound.call R functionId buf
  | send k n =>
    simp only [step] at taken
    split at taken
    · rename_i write writing held
      obtain ⟨fits,rfl⟩ := ite_some taken
      exact sound.send k n write writing held fits.2.1 fits.2.2 turns
    · cases taken
  | wrote k =>
    simp only [step] at taken
    split at taken
    · rename_i writing
      obtain ⟨complete,rfl⟩ := ite_some taken
      exact sound.wrote k writing complete.2 turns
    · cases taken
  | head =>
    simp only [step] at taken
    split at taken
    · cases taken
    · rename_i k reads pending
      split at taken
      · rename_i R armed held
        split at taken
        · rename_i able
          exact sound.head k _ reads next pending held rfl able.1 able.2 taken
        · cases taken
      · cases taken
  | body =>
    simp only [step] at taken
    split at taken
    · cases taken
    · rename_i k reads pending
      split at taken
      · rename_i R header armed held
        split at taken
        · rename_i able
          exact sound.body k _ header reads next pending held rfl able.1 taken
        · cases taken
      · cases taken
  | fail k =>
    obtain ⟨call,held,rest⟩ := Option.bind_eq_some_iff.mp taken
    obtain ⟨point,fails,rest⟩ := Option.bind_eq_some_iff.mp rest
    cases rest
    exact sound.fail k call point fails
  | expire k =>
    obtain ⟨call,held,rest⟩ := Option.bind_eq_some_iff.mp taken
    obtain ⟨-,rfl⟩ := ite_some rest
    exact sound.expire k call held
  | close =>
    cases taken
    exact sound.keep _ (fun _ => id) (fun _ _ => .inl) (fun _ _ => .inl) fun isOpen => by cases isOpen
  | ret k =>
    obtain ⟨call,held,rest⟩ := Option.bind_eq_some_iff.mp taken
    obtain ⟨outcome,ends,rest⟩ := Option.bind_eq_some_iff.mp rest
    cases rest
    exact sound.ret k call outcome held ends
  | serveHead =>
    simp only [step] at taken
    split at taken
    · split at taken
      · rename_i enough
        cases taken
        obtain ⟨calls,answers,results,isOpen⟩ := afterServeHead_same cfg state
        exact sound.serve _ calls answers results isOpen fun ordered => serveHead_ordered ordered enough
      · cases taken
    · cases taken
  | serveBody =>
    simp only [step] at taken
    split at taken
    · rename_i header point
      obtain ⟨enough,rfl⟩ := ite_some taken
      exact sound.serve _ rfl rfl rfl rfl fun ordered => serveBody_ordered ordered header point enough
    · cases taken
  | answer i ec text =>
    obtain ⟨request,waits,rest⟩ := Option.bind_eq_some_iff.mp taken
    cases rest
    exact sound.answer i request ec text waits turns

/-- In every run whose calls take turns, whatever they overlap in otherwise, a call that returns
with `ok` returns the response to its own request. -/
theorem own_response_in_turns (sp : StructPack env) (cfg : Config) (events : List (Event env))
    (final : State env) (ran : run (step sp cfg) {} events = some final)
    (turns : Guarded (step sp cfg) Turns {} events) :
    ∀ k outcome, (k,outcome) ∈ final.results → Answered sp final.answers k outcome :=
  (run_guarded (Sound sp cfg) (sound_step sp cfg) events {} final (sound_initial sp cfg) turns ran).results

def returnedString : Outcome env → Option Text
  | ⟨some .string,result⟩ => result.value
  | _ => none

/-- The second request is on its way before the first response, and is served before the first call has read
it. -/
def inTurns (first second : Text) : List (Event noStruct) :=
  [.call (some .string) 7 (some first),.send 0 20,.call (some .string) 7 (some Text.empty),.send 0 13,
    .send 1 32,.wrote 0,.serveHead,.serveBody,.answer 0 .ok first,.head,.serveHead,.answer 0 .ok second,.body,
    .wrote 1,.head,.body,.ret 1,.ret 0]

theorem own_response_in_turns_two :
    let sp : StructPack noStruct := integerTuples
    let first := Text.view [97]
    let second := Text.view [98]
    ∃ final, run (step sp ⟨.little,false⟩) {} (inTurns first second) = some final ∧
      final.results.map (fun (k,outcome) => (k,outcome.result.ec,returnedString outcome)) =
        [(0,.ok,some first),(1,.ok,some second)] ∧
      ∀ k outcome, (k,outcome) ∈ final.results → Answered sp final.answers k outcome := by
  intro sp first second
  have returned : (run (step sp ⟨.little,false⟩) {} (inTurns first second)).map
      (fun final => final.results.map fun (k,outcome) => (k,outcome.result.ec,returnedString outcome)) =
      some [(0,.ok,some first),(1,.ok,some second)] := by decide +kernel
  obtain ⟨final,ran,results⟩ := Option.map_eq_some_iff.mp returned
  exact ⟨final,ran,results,own_response_in_turns sp ⟨.little,false⟩ _ final ran (by decide +kernel)⟩

theorem answered_string {sp : StructPack noStruct} {answers : List (Nat × RpcErrc × Text)} {k : Nat}
    {outcome : Outcome noStruct} {text : Text} (answered : Answered sp answers k outcome)
    (ok : outcome.result.ec = .ok) (returned : returnedString outcome = some text) :
    (k,.ok,text) ∈ answers := by
  obtain ⟨sent,member,decodes⟩ := answered ok
  obtain ⟨R,result⟩ := outcome
  cases R with
  | none => cases returned
  | some type =>
    cases type with
    | string =>
      cases decodes
      cases returned
      exact member
    | _ => cases returned

/-- Two calls wait for their headers. The second takes the first 32 octets of the first one's body
for its header, and the first one returns what follows them. -/
theorem overlapping_wrong_response :
    let sp : StructPack noStruct := integerTuples
    let cfg : Config := ⟨.little,false⟩
    let first := Text.view (List.replicate 31 97 ++ [0,120])
    let wrong := Text.view (120::sentHeader cfg (responseHeader (packed .ok Text.empty) 0))
    ∃ final, run (step sp cfg) {} [.call (some .string) 7 (some first),.send 0 65,.wrote 0,
        .call (some .string) 8 (some Text.empty),.send 1 32,.wrote 1,.serveHead,.serveBody,.serveHead,
        .answer 0 .ok first,.answer 0 .ok Text.empty,.head,.head,.body,.ret 0,.ret 1] = some final ∧
      final.answers = [(1,.ok,Text.empty),(0,.ok,first)] ∧
      final.results.map (fun (k,outcome) => (k,outcome.result.ec,returnedString outcome)) =
        [(1,.protocolError,none),(0,.ok,some wrong)] ∧
      ¬∀ k outcome, (k,outcome) ∈ final.results → Answered sp final.answers k outcome := by
  intro sp cfg first wrong
  have logged : (run (step sp cfg) {} [.call (some .string) 7 (some first),.send 0 65,.wrote 0,
      .call (some .string) 8 (some Text.empty),.send 1 32,.wrote 1,.serveHead,.serveBody,.serveHead,
      .answer 0 .ok first,.answer 0 .ok Text.empty,.head,.head,.body,.ret 0,.ret 1]).map (fun final =>
        (final.answers,final.results.map fun (k,outcome) => (k,outcome.result.ec,returnedString outcome))) =
      some ([(1,.ok,Text.empty),(0,.ok,first)],[(1,.protocolError,none),(0,.ok,some wrong)]) := by
    decide +kernel
  obtain ⟨final,ran,same⟩ := Option.map_eq_some_iff.mp logged
  obtain ⟨answers,results⟩ := Prod.mk.inj same
  refine ⟨final,ran,answers,results,fun own => ?_⟩
  have listed : (0,RpcErrc.ok,some wrong) ∈
      final.results.map fun (k,outcome) => (k,outcome.result.ec,returnedString outcome) := by simp [results]
  obtain ⟨⟨k,outcome⟩,member,entry⟩ := List.mem_map.mp listed
  simp only [Prod.mk.injEq] at entry
  obtain ⟨rfl,ok,returned⟩ := entry
  have answered := answered_string (own 0 outcome member) ok returned
  rw [answers] at answered
  revert answered
  decide +kernel

end RestRpc.CallTurns
