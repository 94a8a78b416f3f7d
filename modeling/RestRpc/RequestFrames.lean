import RestRpc.ContextBinding
import RestRpc.DelayFlag

/-! The response frames of one request: the read loop may write one, and each object that is a
context of the request, constructed or copied, may write one. -/
namespace RestRpc.RequestFrames
open Automaton Protocol ErrorCode Codec Router Connection Server Server.State DelayFlag

def frameOf (request : RequestId) : Obs → Option (List UInt8)
  | .answered answered frame => if answered = request then some frame else none
  | .sent owner _ frame => if owner = some request then some frame else none
  | _ => none

/-- The frames written for a request, newest first. -/
def frames (request : RequestId) (history : List Obs) : List (List UInt8) := history.filterMap (frameOf request)

def Plain : Obs → Prop
  | .made _ owner _ => owner = none
  | .finished .. => False
  | .answered .. => False
  | .sent .. => False
  | _ => True

def Passive : Event → Prop
  | .construct _ => False
  | .finish .. => False
  | .respond .. => False
  | _ => True

/-- `response` returns at once: the object is marked, or it has no connection. -/
def Refuses (context : RpcContext) : Prop := context.hasResponse = true ∨ context.conn = none

inductive Logged (server : RpcServer) (state : State) : Event → List Obs → Prop
  | quiet (event : Event) (new : List Obs) (passive : Passive event) (plain : ∀ entry ∈ new, Plain entry) :
      Logged server state event new
  | made (c : Nat) (conn : Conn) (request : Nat) (key : UInt32) (bound : Option Nat)
      (live : state.conns c = some conn) (point : conn.point = .routing request key) :
      Logged server state (.construct c) [.made conn.thread (some (c,request)) bound]
  | delayed (c : Nat) (conn : Conn) (request : Nat) (key : UInt32) (ret : Option (Except Thrown Text))
      (live : state.conns c = some conn) (point : conn.point = .routing request key)
      (flag : (state.threads conn.thread).context.delay = true) :
      Logged server state (.finish c ret) [.finished conn.thread (c,request) (returnedNormally ret) true]
  | answered (c : Nat) (conn : Conn) (request : Nat) (key : UInt32) (ret : Option (Except Thrown Text))
      (live : state.conns c = some conn) (point : conn.point = .routing request key)
      (flag : (state.threads conn.thread).context.delay = false) :
      Logged server state (.finish c ret)
        [.answered (c,request) (response server.cfg (routeResult (server.getNameByKey key) ret) 0),
          .finished conn.thread (c,request) (returnedNormally ret) false]
  | sent (k : Nat) (context : RpcContext) (payload : Text) (c : Nat)
      (held : state.contexts[k]? = some context) (unmarked : context.hasResponse = false)
      (bind : context.conn = some c) :
      Logged server state (.respond k payload)
        [.sent context.owner c (response server.cfg (packed .ok payload) 0)]
  | refused (k : Nat) (context : RpcContext) (payload : Text)
      (held : state.contexts[k]? = some context) (refuses : Refuses context) :
      Logged server state (.respond k payload) []

variable {server : RpcServer} {state next : State} {event : Event}

theorem logged_none (passive : Passive event) (same : next.history = state.history) :
    ∃ new, Logged server state event new ∧ next.history = new ++ state.history :=
  ⟨[],.quiet event [] passive fun _ member => (by cases member),same⟩

theorem logged_one (passive : Passive event) (entry : Obs) (plain : Plain entry)
    (added : next.history = entry::state.history) :
    ∃ new, Logged server state event new ∧ next.history = new ++ state.history :=
  ⟨[entry],.quiet event [entry] passive fun _ member => List.mem_singleton.mp member ▸ plain,added⟩

theorem logged_step (taken : step server state event = some next) :
    ∃ new, Logged server state event new ∧ next.history = new ++ state.history := by
  cases step_cases server state next event taken with
  | accept => exact logged_none trivial rfl
  | head c conn read allocated =>
    unfold Server.afterHead
    split
    · exact logged_none trivial (close_history state c true true)
    · exact logged_none trivial rfl
    · exact logged_one trivial (.subscribed ..) trivial rfl
    · exact logged_none trivial rfl
    · exact logged_none trivial rfl
    · exact logged_one trivial (.routed ..) trivial rfl
  | body c conn header read =>
    cases read with
    | none => exact logged_none trivial (close_history state c true true)
    | some octets => exact logged_one trivial (.routed ..) trivial rfl
  | construct c conn request key live point => exact ⟨_,.made c conn request key _ live point,rfl⟩
  | constructElsewhere t => exact logged_one trivial (.made t none _) rfl rfl
  | suspend => exact logged_none trivial rfl
  | resume => exact logged_none trivial rfl
  | finish c conn request key ret live point =>
    cases flag : (state.threads conn.thread).context.delay with
    | true => exact ⟨_,.delayed c conn request key ret live point flag,by simp [afterRoute,flag,setPoint,setThread,State.log]⟩
    | false => exact ⟨_,.answered c conn request key ret live point flag,by simp [afterRoute,flag,setPoint,setThread,State.log]⟩
  | written c conn ok =>
    cases ok with
    | true => exact logged_none trivial rfl
    | false => exact logged_none trivial (close_history state c true true)
  | copy => exact logged_none trivial rfl
  | move => exact logged_none trivial rfl
  | respond k context payload held =>
    unfold respond
    split
    · rename_i marked
      exact ⟨[],.refused k context payload held (.inl marked),rfl⟩
    · rename_i unmarked
      split
      · rename_i unbound
        exact ⟨[],.refused k context payload held (.inr unbound),rfl⟩
      · rename_i c bind
        exact ⟨_,.sent k context payload c held (Bool.eq_false_of_not_eq_true unmarked) bind,rfl⟩
  | responded c ok inline => exact logged_none trivial (by rw [afterResponse_history])
  | publish => exact logged_none trivial rfl
  | publishNext p publisher c remaining =>
    unfold publishTo
    extract_lets id left
    split
    · exact logged_one trivial (.published ..) trivial rfl
    · exact logged_one trivial (.passed ..) trivial rfl
  | publishWritten p publisher c ok inline => exact logged_none trivial (by rw [afterResponse_history]; rfl)
  | closePosted c needCb =>
    cases needCb with
    | true => exact logged_none trivial rfl
    | false => exact logged_none trivial rfl
  | checkTimeout c inline => exact logged_none trivial (close_history state c false inline)
  | stop => exact logged_none trivial rfl

theorem frames_append (request : RequestId) (new history : List Obs) :
    frames request (new ++ history) = frames request new ++ frames request history := List.filterMap_append

theorem frames_plain (request : RequestId) (new : List Obs) (plain : ∀ entry ∈ new, Plain entry) :
    frames request new = [] := by
  refine List.filterMap_eq_nil_iff.mpr fun entry member => ?_
  have none := plain entry member
  cases entry with
  | answered => cases none
  | sent => cases none
  | _ => rfl

theorem constructed_append (request : RequestId) (new history : List Obs) :
    constructed request (new ++ history) = (constructed request new || constructed request history) :=
  List.any_append

theorem constructed_plain (request : RequestId) (new : List Obs) (plain : ∀ entry ∈ new, Plain entry) :
    constructed request new = false := by
  rw [constructed,List.any_eq_false]
  intro entry member
  have none := plain entry member
  cases entry with
  | made t owner bound =>
    obtain rfl : owner = Option.none := none
    simp [makes]
  | _ => simp [makes]

theorem answerCount_append (request : RequestId) (new history : List Obs) :
    answerCount request (new ++ history) = answerCount request new + answerCount request history :=
  List.countP_append

theorem frames_empty (request : RequestId) (history : List Obs) (unanswered : answerCount request history = 0)
    (unsent : ∀ c frame, .sent (some request) c frame ∉ history) : frames request history = [] := by
  refine List.filterMap_eq_nil_iff.mpr fun entry member => ?_
  cases entry with
  | answered answered frame =>
    have other := List.countP_eq_zero.mp unanswered _ member
    have differs : answered ≠ request := by simpa [answers] using other
    exact if_neg differs
  | sent owner c frame =>
    refine if_neg ?_
    rintro rfl
    exact unsent c frame member
  | _ => rfl

/-- A context was constructed for the request, and the loop has not answered it itself. -/
def Delayed (request : RequestId) (history : List Obs) : Prop :=
  constructed request history = true ∧ answerCount request history = 0

/-- At most one frame is written for a delayed request. -/
def OneFrame (state : State) : Prop :=
  ∀ request, Delayed request state.history → (frames request state.history).length ≤ 1

def refusal (context : RpcContext) : Option RpcErrc :=
  if context.hasResponse then some .hasResponse
  else match context.conn with
    | none => some .rpcContextInitFailed
    | some _ => none

/-- The attempt returns an error code and writes nothing. -/
def Refused (server : RpcServer) (state : State) (k : Nat) (payload : Text) : Prop :=
  ∃ context ec, state.contexts[k]? = some context ∧ refusal context = some ec ∧ ec.octet ≠ 0 ∧
    step server state (.respond k payload) = some state

def Further (state : State) (k : Nat) : Prop :=
  ∃ context request, state.contexts[k]? = some context ∧ context.owner = some request ∧
    Delayed request state.history ∧ frames request state.history ≠ []

/-- After the first frame of a delayed request, `response` is called only through objects that are
marked or unbound. -/
def ThroughOne (state : State) : Event → Prop
  | .respond k _ => ∀ context ∈ state.contexts[k]?, ∀ request ∈ context.owner,
      Delayed request state.history → frames request state.history ≠ [] → Refuses context
  | _ => True

instance Delayed.decide (request : RequestId) (history : List Obs) : Decidable (Delayed request history) :=
  inferInstanceAs (Decidable (constructed request history = true ∧ answerCount request history = 0))

instance Refuses.decide (context : RpcContext) : Decidable (Refuses context) :=
  inferInstanceAs (Decidable (context.hasResponse = true ∨ context.conn = none))

instance ThroughOne.decide (state : State) (event : Event) : Decidable (ThroughOne state event) := by
  unfold ThroughOne
  split <;> infer_instance

structure Known (state : State) : Prop where
  tracked : Tracked state
  counted : Counted state.history
  bound : ContextBinding.Bound state

theorem known_initial : Known {} :=
  ⟨tracked_initial,⟨fun _ none => absurd rfl none,fun _ _ _ _ member => by cases member⟩,
    ContextBinding.bound_initial⟩

theorem known_step (server : RpcServer) (state : State) (event : Event) (next : State) (known : Known state)
    (taken : step server state event = some next) : Known next :=
  ⟨tracked_step server state event next known.tracked taken,
    counted_step server state event next known.tracked known.counted taken,
    ContextBinding.bound_step server state event next known.bound taken⟩

theorem Known.unsent (known : Known state) (request : RequestId)
    (unmade : constructed request state.history = false) (c : Nat) (frame : List UInt8) :
    .sent (some request) c frame ∉ state.history := by
  intro member
  obtain ⟨t,made⟩ := known.bound.sent _ _ _ member
  have none := List.any_eq_false.mp unmade _ made
  simp [makes] at none

theorem Delayed.of_append {request : RequestId} {new history : List Obs}
    (delayed : Delayed request (new ++ history)) (unmade : constructed request new = false) :
    Delayed request history := by
  obtain ⟨made,unanswered⟩ := delayed
  rw [constructed_append,unmade,Bool.false_or] at made
  rw [answerCount_append,Nat.add_eq_zero_iff] at unanswered
  exact ⟨made,unanswered.2⟩

theorem oneFrame_step (one : OneFrame state) (known : Known state) (safe : ThroughOne state event)
    (taken : step server state event = some next) : OneFrame next := by
  obtain ⟨new,logged,history⟩ := logged_step taken
  intro request delayed
  rw [history] at delayed ⊢
  rw [frames_append,List.length_append]
  cases logged with
  | quiet _ _ passive plain =>
    rw [frames_plain request new plain,List.length_nil,Nat.zero_add]
    exact one request (delayed.of_append (constructed_plain request new plain))
  | made c conn number key bound live point =>
    refine (Nat.zero_add _).trans_le ?_
    cases before : constructed request state.history with
    | true => exact one request ⟨before,by simpa [answerCount_append,answerCount,answers] using delayed.2⟩
    | false =>
      have unanswered : answerCount request state.history = 0 := by
        simpa [answerCount_append,answerCount,answers] using delayed.2
      rw [frames_empty request state.history unanswered (known.unsent request before)]
      exact Nat.zero_le _
  | delayed c conn number key ret live point flag =>
    exact (Nat.zero_add _).trans_le (one request (delayed.of_append rfl))
  | answered c conn number key ret live point flag =>
    have other : (c,number) ≠ request := by
      rintro rfl
      have count := delayed.2
      simp [answerCount,answers] at count
    have none : frames request [.answered (c,number) (response server.cfg (routeResult (server.getNameByKey key) ret) 0),
        .finished conn.thread (c,number) (returnedNormally ret) false] = [] := by simp [frames,frameOf,other]
    rw [none,List.length_nil,Nat.zero_add]
    exact one request (delayed.of_append rfl)
  | sent k context payload c held unmarked bind =>
    have before := delayed.of_append rfl
    by_cases own : context.owner = some request
    · have first : frames request state.history = [] := by
        by_contra more
        rcases safe context held request own before more with marked | unbound
        · rw [unmarked] at marked
          cases marked
        · rw [bind] at unbound
          cases unbound
      rw [first,own]
      simp [frames,frameOf]
    · have none : frames request [.sent context.owner c (response server.cfg (packed .ok payload) 0)] = [] := by
        simp [frames,frameOf,own]
      rw [none,List.length_nil,Nat.zero_add]
      exact one request before
  | refused k context payload held refuses =>
    exact (Nat.zero_add _).trans_le (one request delayed)

theorem throughOne_of_oneFrame (one : OneFrame next) (taken : step server state event = some next) :
    ThroughOne state event := by
  obtain ⟨new,logged,history⟩ := logged_step taken
  cases logged with
  | quiet _ _ passive plain =>
    cases event with
    | respond => cases passive
    | _ => trivial
  | made => trivial
  | delayed => trivial
  | answered => trivial
  | refused k context payload held refuses =>
    intro other again request owner delayed more
    cases held.symm.trans again
    exact refuses
  | sent k context payload c held unmarked bind =>
    intro other again request owner delayed more
    cases held.symm.trans again
    have owner : context.owner = some request := owner
    have count := one request
    rw [history,frames_append,owner,List.length_append] at count
    have second := count ⟨by simpa [constructed_append,constructed,makes] using delayed.1,
      by simpa [answerCount_append,answerCount,answers] using delayed.2⟩
    have positive := List.length_pos_iff.mpr more
    have first : (frames request [.sent (some request) c (response server.cfg (packed .ok payload) 0)]).length = 1 := by
      simp [frames,frameOf]
    omega

theorem refused_of_refuses (k : Nat) (payload : Text) (context : RpcContext)
    (held : state.contexts[k]? = some context) (refuses : Refuses context) : Refused server state k payload := by
  by_cases marked : context.hasResponse = true
  · exact ⟨context,.hasResponse,held,by simp [refusal,marked],by decide,by simp [step,held,respond,marked]⟩
  · have unbound := refuses.resolve_left marked
    exact ⟨context,.rpcContextInitFailed,held,by simp [refusal,marked,unbound],by decide,
      by simp [step,held,respond,marked,unbound]⟩

/-- In every run, the responses meet the guard exactly when every state on the way has at most one
frame for each delayed request and every further attempt is refused. -/
theorem one_frame_iff (server : RpcServer) (events : List Event) (final : State)
    (ran : run (step server) {} events = some final) :
    Guarded (step server) ThroughOne {} events ↔ ∀ early later middle, events = early ++ later →
      run (step server) {} early = some middle → OneFrame middle ∧
        ∀ k payload rest, later = .respond k payload::rest → Further middle k → Refused server middle k payload := by
  have frames : Guarded (step server) ThroughOne {} events ↔ ∀ early later middle, events = early ++ later →
      run (step server) {} early = some middle → OneFrame middle := by
    apply guarded_iff_good
    case safe =>
      intro early middle admitted reached
      have both := run_guarded (fun state => OneFrame state ∧ Known state)
        (fun state event next good safe taken =>
          ⟨oneFrame_step good.1 good.2 safe taken,known_step server state event next good.2 taken⟩)
        early {} middle ⟨(fun _ delayed => by cases delayed.1),known_initial⟩ admitted reached
      exact both.1
    case exact => exact fun early middle event next _ taken one => throughOne_of_oneFrame one taken
    case ran => exact ran
  constructor
  · intro admitted early later middle split reached
    refine ⟨frames.mp admitted early later middle split reached,fun k payload rest next further => ?_⟩
    obtain ⟨context,request,held,owner,delayed,more⟩ := further
    have safe := (guarded_iff {} final events ran).mp admitted early (.respond k payload) rest middle
      (by rw [split,next]) reached
    exact refused_of_refuses k payload context held (safe context held request owner delayed more)
  · intro all
    exact frames.mpr fun early later middle split reached => (all early later middle split reached).1

def respondedTwice (request : List UInt8) : List Event :=
  [.accept 0,.head 0 (some request) true,.construct 0,.finish 0 (some (.ok Text.empty)),.respond 0 Text.empty,
    .respond 0 Text.empty]

theorem responded_twice_one_frame :
    let server : RpcServer := ⟨⟨.little,false⟩,fun _ => []⟩
    let events := respondedTwice (Client.callImpl server.cfg (Client.callHeader 7) Text.empty)
    ∃ final, run (step server) {} events = some final ∧ (frames (0,0) final.history).length = 1 ∧
      ∀ early later middle, events = early ++ later →
        run (step server) {} early = some middle → OneFrame middle ∧
          ∀ k payload rest, later = .respond k payload::rest → Further middle k → Refused server middle k payload := by
  intro server events
  have observed : (run (step server) {} events).map (fun final => (frames (0,0) final.history).length) = some 1 := by
    decide +kernel
  obtain ⟨final,ran,count⟩ := Option.map_eq_some_iff.mp observed
  have admitted : Guarded (step server) ThroughOne {} events := by decide +kernel
  exact ⟨final,ran,count,(one_frame_iff server events final ran).mp admitted⟩

def respondedThroughCopy (request : List UInt8) : List Event :=
  [.accept 0,.head 0 (some request) true,.construct 0,.finish 0 (some (.ok Text.empty)),.copy 0,
    .respond 0 Text.empty,.respond 1 Text.empty]

theorem copy_responds_again :
    let server : RpcServer := ⟨⟨.little,false⟩,fun _ => []⟩
    let events := respondedThroughCopy (Client.callImpl server.cfg (Client.callHeader 7) Text.empty)
    ∃ final, run (step server) {} events = some final ∧ Delayed (0,0) final.history ∧
      (frames (0,0) final.history).length = 2 ∧ ¬OneFrame final := by
  intro server events
  have observed : (run (step server) {} events).map (fun final => (constructed (0,0) final.history,
      answerCount (0,0) final.history,(frames (0,0) final.history).length)) = some (true,0,2) := by decide +kernel
  obtain ⟨final,ran,ends⟩ := Option.map_eq_some_iff.mp observed
  obtain ⟨made,unanswered,count⟩ : _ ∧ _ ∧ _ := by simpa using ends
  refine ⟨final,ran,⟨made,unanswered⟩,count,fun one => ?_⟩
  have most := one (0,0) ⟨made,unanswered⟩
  omega

end RestRpc.RequestFrames
