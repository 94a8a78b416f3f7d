import RestRpc.RequestFrames

/-! Requests whose handler ends with an exception before it has responded, and the frames that are
written for them. The machine of the server is run with a list of these requests beside it. -/
namespace RestRpc.ErrorFrames
open Automaton Protocol ErrorCode Codec Router Connection Server Server.State DelayFlag RequestFrames

def responds (request : RequestId) : Obs → Bool
  | .sent owner _ _ => owner == some request
  | _ => false

def responded (request : RequestId) (history : List Obs) : Bool := history.any (responds request)

/-- The failed requests, each with the frame of the error that `route` made for it. -/
structure Watched where
  state : State := {}
  failed : List (RequestId × List UInt8) := []

/-- A request fails when its handler throws without having responded. -/
def failing (server : RpcServer) (state : State) : Event → Option (RequestId × List UInt8)
  | .finish c (some (.error thrown)) => do
    let conn ← state.conns c
    match conn.point with
    | .routing request key =>
      if responded (c,request) state.history then none
      else some ((c,request),response server.cfg (routeResult (server.getNameByKey key) (some (.error thrown))) 0)
    | _ => none
  | _ => none

def step (server : RpcServer) (watched : Watched) (event : Event) : Option Watched :=
  (Server.step server watched.state event).map fun next =>
    ⟨next,(failing server watched.state event).toList ++ watched.failed⟩

/-- For each failed request the frame of its error is written, and no other. -/
def Delivered (watched : Watched) : Prop :=
  ∀ entry ∈ watched.failed, frames entry.1 watched.state.history = [entry.2]

/-- A handler that throws without having responded finds its thread's flag unset, and no context
of a failed request responds. -/
def ErrorKept (server : RpcServer) (watched : Watched) : Event → Prop
  | .finish c ret => (failing server watched.state (.finish c ret)).isSome →
      ∀ conn ∈ watched.state.conns c, (watched.state.threads conn.thread).context.delay = false
  | .respond k _ => ∀ context ∈ watched.state.contexts[k]?, ∀ request ∈ context.owner,
      request ∈ watched.failed.map (·.1) → Refuses context
  | _ => True

structure Noted (server : RpcServer) (watched : Watched) : Prop where
  known : Known watched.state
  ended : ∀ entry ∈ watched.failed, ∃ t ok delayed, .finished t entry.1 ok delayed ∈ watched.state.history
  error : ∀ entry ∈ watched.failed, ∃ name thrown,
    entry.2 = response server.cfg (routeResult name (some (.error thrown))) 0

instance ErrorKept.decide (server : RpcServer) (watched : Watched) (event : Event) :
    Decidable (ErrorKept server watched event) := by
  rcases event with _ | _ <;> unfold ErrorKept <;> infer_instance

variable {server : RpcServer} {watched next : Watched} {event : Event}

theorem step_inv (taken : step server watched event = some next) :
    Server.step server watched.state event = some next.state ∧
      next.failed = (failing server watched.state event).toList ++ watched.failed := by
  obtain ⟨state,moved,rfl⟩ := Option.map_eq_some_iff.mp taken
  exact ⟨moved,rfl⟩

theorem failing_cases {state : State} {entry : RequestId × List UInt8} (fails : failing server state event = some entry) :
    ∃ c thrown conn request key, event = .finish c (some (.error thrown)) ∧ state.conns c = some conn ∧
      conn.point = .routing request key ∧ responded (c,request) state.history = false ∧
      entry = ((c,request),response server.cfg (routeResult (server.getNameByKey key) (some (.error thrown))) 0) := by
  unfold failing at fails
  split at fails
  · rename_i c thrown
    obtain ⟨conn,live,fails⟩ := Option.bind_eq_some_iff.mp fails
    split at fails
    · rename_i request key point
      split at fails
      · cases fails
      · rename_i unanswered
        cases fails
        exact ⟨c,thrown,conn,request,key,rfl,live,point,Bool.eq_false_of_not_eq_true unanswered,rfl⟩
    · cases fails
  · cases fails

theorem frames_running (known : Known watched.state) (c : Nat) (conn : Conn) (request : Nat) (key : UInt32)
    (live : watched.state.conns c = some conn) (point : conn.point = .routing request key)
    (unanswered : responded (c,request) watched.state.history = false) :
    frames (c,request) watched.state.history = [] := by
  apply frames_empty
  · exact known.counted.none (c,request) (known.tracked.notFinished c conn request key live point)
  · intro d frame member
    have none := List.any_eq_false.mp unanswered _ member
    simp [responds] at none

theorem response_ec (cfg : Config) (first second : RpcResult)
    (same : response cfg first 0 = response cfg second 0) : first.ec = second.ec := by
  rw [response_octets,response_octets] at same
  have bodies := (List.append_inj same (by simp)).2
  have octets : first.ec.octet = second.ec.octet := (List.cons.inj bodies).1
  rw [← ofOctet_octet first.ec,octets,ofOctet_octet]

theorem routeResult_error (name : List UInt8) (thrown : Thrown) : (routeResult name (some (.error thrown))).ec ≠ .ok := by
  cases thrown with
  | exception what => simp [routeResult]
  | unknown => simp [routeResult]

theorem noted_initial : Noted server {} := ⟨known_initial,(fun _ member => by cases member),fun _ member => by cases member⟩

theorem noted_step (noted : Noted server watched) (taken : step server watched event = some next) :
    Noted server next := by
  obtain ⟨moved,failed⟩ := step_inv taken
  obtain ⟨new,logged,history⟩ := logged_step moved
  refine ⟨known_step server _ event _ noted.known moved,fun entry member => ?_,fun entry member => ?_⟩
  · rw [failed,List.mem_append,Option.mem_toList] at member
    rw [history]
    rcases member with fails | member
    · obtain ⟨c,thrown,conn,request,key,rfl,live,point,-,rfl⟩ := failing_cases fails
      cases logged with
      | quiet _ _ passive => cases passive
      | delayed c other number key ret again same =>
        cases live.symm.trans again
        cases point.symm.trans same
        exact ⟨_,_,_,List.mem_cons_self⟩
      | answered c other number key ret again same =>
        cases live.symm.trans again
        cases point.symm.trans same
        exact ⟨_,_,_,List.mem_cons_of_mem _ List.mem_cons_self⟩
    · obtain ⟨t,ok,delayed,ended⟩ := noted.ended entry member
      exact ⟨t,ok,delayed,List.mem_append_right _ ended⟩
  · rw [failed,List.mem_append,Option.mem_toList] at member
    rcases member with fails | member
    · obtain ⟨_,thrown,_,_,key,-,-,-,-,rfl⟩ := failing_cases fails
      exact ⟨_,thrown,rfl⟩
    · exact noted.error entry member

theorem Noted.running (noted : Noted server watched) (c : Nat) (conn : Conn) (request : Nat) (key : UInt32)
    (live : watched.state.conns c = some conn) (point : conn.point = .routing request key)
    (entry : RequestId × List UInt8) (member : entry ∈ watched.failed) : (c,request) ≠ entry.1 := by
  intro same
  obtain ⟨t,ok,delayed,ended⟩ := noted.ended entry member
  rw [← same] at ended
  exact noted.known.tracked.notFinished c conn request key live point t ok delayed ended

theorem delivered_step (delivered : Delivered watched) (noted : Noted server watched)
    (safe : ErrorKept server watched event) (taken : step server watched event = some next) : Delivered next := by
  obtain ⟨moved,failed⟩ := step_inv taken
  obtain ⟨new,logged,history⟩ := logged_step moved
  intro entry member
  rw [failed,List.mem_append,Option.mem_toList] at member
  rw [history,frames_append]
  rcases member with fails | member
  · obtain ⟨c,thrown,conn,request,key,rfl,live,point,unanswered,rfl⟩ := failing_cases fails
    have before := frames_running noted.known c conn request key live point unanswered
    have unset := safe (by rw [fails]; rfl) conn live
    cases logged with
    | quiet _ _ passive => cases passive
    | delayed c other number key ret again same flag =>
      cases live.symm.trans again
      rw [unset] at flag
      cases flag
    | answered c other number key ret again same =>
      cases live.symm.trans again
      cases point.symm.trans same
      rw [before]
      simp [frames,frameOf]
  · have old := delivered entry member
    rw [old]
    have none : frames entry.1 new = [] := by
      cases logged with
      | quiet _ _ passive plain => exact frames_plain entry.1 new plain
      | made => rfl
      | delayed => rfl
      | refused => rfl
      | answered c conn number key ret live point =>
        have other := noted.running c conn number key live point entry member
        simp [frames,frameOf,other]
      | sent k context payload c held unmarked bind =>
        have other : context.owner ≠ some entry.1 := by
          intro owner
          rcases safe context held entry.1 owner (List.mem_map_of_mem member) with marked | unbound
          · rw [unmarked] at marked
            cases marked
          · rw [bind] at unbound
            cases unbound
        simp [frames,frameOf,other]
    rw [none,List.nil_append]

theorem errorKept_of_delivered (noted : Noted server watched) (delivered : Delivered next)
    (taken : step server watched event = some next) : ErrorKept server watched event := by
  obtain ⟨moved,failed⟩ := step_inv taken
  obtain ⟨new,logged,history⟩ := logged_step moved
  cases logged with
  | quiet _ _ passive =>
    cases event with
    | finish => cases passive
    | respond => cases passive
    | _ => trivial
  | made => trivial
  | answered c conn number key ret live point flag =>
    intro _ other again
    cases live.symm.trans again
    exact flag
  | delayed c conn number key ret live point flag =>
    intro fails
    obtain ⟨entry,fails⟩ := Option.isSome_iff_exists.mp fails
    obtain ⟨_,thrown,other,request,key,same,again,routes,unanswered,rfl⟩ := failing_cases fails
    cases same
    cases live.symm.trans again
    cases point.symm.trans routes
    have frame := delivered _ (by rw [failed,fails]; exact List.mem_cons_self)
    rw [history,frames_append,frames_running noted.known c conn number key live point unanswered] at frame
    cases frame
  | refused k context payload held refuses =>
    intro other again request owner member
    cases held.symm.trans again
    exact refuses
  | sent k context payload c held unmarked bind =>
    intro other again request owner member
    cases held.symm.trans again
    obtain ⟨entry,listed,rfl⟩ := List.mem_map.mp member
    obtain ⟨name,thrown,error⟩ := noted.error entry listed
    have owner : context.owner = some entry.1 := owner
    have frame := delivered entry (by rw [failed]; exact List.mem_append_right _ listed)
    rw [history,frames_append,owner] at frame
    have first : response server.cfg (packed .ok payload) 0 = entry.2 := by
      simp [frames,frameOf] at frame
      exact frame.1
    rw [error] at first
    exact absurd (response_ec _ _ _ first).symm (routeResult_error name thrown)

theorem run_watched (events : List Event) (watched : Watched) (final : State)
    (ran : run (Server.step server) watched.state events = some final) :
    ∃ failed, run (step server) watched events = some ⟨final,failed⟩ := by
  induction events generalizing watched with
  | nil =>
    cases ran
    exact ⟨watched.failed,rfl⟩
  | cons event events ih =>
    obtain ⟨state,taken,rest⟩ := (run_cons ..).mp ran
    obtain ⟨failed,ran⟩ := ih ⟨state,(failing server watched.state event).toList ++ watched.failed⟩ rest
    exact ⟨failed,(run_cons ..).mpr ⟨_,by rw [step,taken]; rfl,ran⟩⟩

/-- In every run of the server, all steps keep the errors exactly when every state on the way has for
each failed request the frame of its error and no other. -/
theorem delivered_iff (server : RpcServer) (events : List Event) (final : State)
    (ran : run (Server.step server) {} events = some final) :
    Guarded (step server) (ErrorKept server) {} events ↔ ∀ early later middle, events = early ++ later →
      run (step server) {} early = some middle → Delivered middle := by
  obtain ⟨failed,watched⟩ := run_watched events {} final ran
  apply guarded_iff_good
  case safe =>
    intro early middle admitted reached
    have both := run_guarded (fun watched => Delivered watched ∧ Noted server watched)
      (fun watched event next good safe taken =>
        ⟨delivered_step good.1 good.2 safe taken,noted_step good.2 taken⟩)
      early {} middle ⟨(fun _ member => by cases member),noted_initial⟩ admitted reached
    exact both.1
  case exact =>
    intro early middle event next reached taken delivered
    have noted := run_invariant (Noted server) (fun _ _ _ noted taken => noted_step noted taken)
      early {} middle noted_initial reached
    exact errorKept_of_delivered noted delivered taken
  case ran => exact watched

def throwing (request : List UInt8) : List Event :=
  [.accept 0,.head 0 (some request) true,.finish 0 (some (.error .unknown)),.written 0 true,
    .head 0 (some request) true,.construct 0,.respond 0 Text.empty,.finish 0 (some (.error .unknown))]

theorem throwing_delivered :
    let server : RpcServer := ⟨⟨.little,false⟩,fun _ => []⟩
    let events := throwing (Client.callImpl server.cfg (Client.callHeader 7) Text.empty)
    ∃ final, run (step server) {} events = some final ∧ final.failed.map (·.1) = [(0,0)] ∧
      ∀ early later middle, events = early ++ later →
        run (step server) {} early = some middle → Delivered middle := by
  intro server events
  have observed : (run (step server) {} events).map (fun final => final.failed.map (·.1)) = some [(0,0)] := by
    decide +kernel
  obtain ⟨final,ran,failed⟩ := Option.map_eq_some_iff.mp observed
  have moves : (run (Server.step server) {} events).isSome = true := by decide +kernel
  obtain ⟨state,moves⟩ := Option.isSome_iff_exists.mp moves
  have admitted : Guarded (step server) (ErrorKept server) {} events := by decide +kernel
  exact ⟨final,ran,failed,(delivered_iff server events state moves).mp admitted⟩

def throwingWithContext (request : List UInt8) : List Event :=
  [.accept 0,.head 0 (some request) true,.construct 0,.finish 0 (some (.error .unknown))]

theorem context_error_discarded :
    let server : RpcServer := ⟨⟨.little,false⟩,fun _ => []⟩
    let events := throwingWithContext (Client.callImpl server.cfg (Client.callHeader 7) Text.empty)
    ∃ final, run (step server) {} events = some final ∧ final.failed.map (·.1) = [(0,0)] ∧
      frames (0,0) final.state.history = [] ∧ ¬Delivered final := by
  intro server events
  have observed : (run (step server) {} events).map
      (fun final => (final.failed.map (·.1),frames (0,0) final.state.history)) = some ([(0,0)],[]) := by
    decide +kernel
  obtain ⟨final,ran,ends⟩ := Option.map_eq_some_iff.mp observed
  obtain ⟨failed,nothing⟩ := Prod.mk.inj ends
  refine ⟨final,ran,failed,nothing,fun delivered => ?_⟩
  obtain ⟨entry,member,request⟩ : ∃ entry ∈ final.failed, entry.1 = (0,0) :=
    List.mem_map.mp (failed ▸ List.mem_cons_self)
  have frame := delivered entry member
  rw [request,nothing] at frame
  cases frame

end RestRpc.ErrorFrames
