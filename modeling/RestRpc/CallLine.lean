import RestRpc.OverlappingCalls
import RestRpc.OwnResponse

/-! What holds of overlapping calls as long as they take turns and the socket is open: requests and
responses are in one line, in which at most one call waits for its header and one for its body. -/
namespace RestRpc.CallLine
open Protocol ErrorCode Codec Router Framing Writes OverlappingCalls
open Connection hiding afterHead afterBody
open Client hiding afterHead afterBody
open Call (decoded_ec)
open Session (Outcome Sent)
open OwnResponse (Answered)

variable {env : TypeEnv}

/-- The requests on the wire, and how far the server has come with them. -/
structure Requests (cfg : Config) (state : State env) (served : Nat) : Prop where
  same : state.calls.length = state.wire.writes.length
  turn : InTurn state.wire state.order
  written : ∀ k, k ∈ state.order ∨ state.point k = some .writing →
    ∃ functionId buf, state.wire.frame k = callImpl cfg (callHeader functionId) buf
  bound : served ≤ state.order.length
  position : state.position = ((state.order.take served).flatMap state.wire.frame).length
  serving : match state.serving with
    | .readHead => True
    | .readBody header => ∃ k, state.order[served]? = some k ∧
        headerSize + header.bodyLen.toNat = (state.wire.frame k).length
    | .ended => False

def headed : Point env → Bool
  | .writing => false
  | .readHead => false
  | _ => true

theorem headed_of_passed {point : Point env} (past : passed point = true) : headed point = true := by
  cases point <;> first | rfl | cases past

/-- The responses that the server has written or has yet to write are those of the calls that have
not read a header, in the order of their requests. -/
structure Line (state : State env) (served heads : Nat) : Prop where
  bound : heads ≤ state.order.length
  same : state.queue.map (·.1) ++ state.unanswered ++ (state.order.drop served).map some =
    (state.order.drop heads).map some
  before : ∀ k ∈ state.order.take heads, ∀ point, state.point k = some point → headed point = true
  behind : ∀ k ∈ state.order.drop heads, ∀ point, state.point k = some point → headed point = false

def item (response : Option Nat × RpcErrc × Text) : Sent :=
  .reply (response.1.getD 0) response.2.1 response.2.2

def frames (cfg : Config) (queue : List (Option Nat × RpcErrc × Text)) : List UInt8 :=
  Awaited.frames cfg (queue.map item)

def rest (current : Option (Nat × RpcErrc × Text)) : List UInt8 :=
  current.elim [] fun (k,ec,text) => Awaited.body (.reply k ec text)

/-- The call that reads its body, and the one behind it that reads its header. -/
structure Reading (cfg : Config) (state : State env) (heads : Nat) (current : Option (Nat × RpcErrc × Text))
    (next : Option Nat) : Prop where
  reads : state.reads = (current.map (·.1)).toList ++ next.toList
  down : state.down = rest current ++ frames cfg state.queue
  current : ∀ k ec text, current = some (k,ec,text) →
    state.point k = some (.readBody (Awaited.header (.reply k ec text))) ∧
      state.bodySize = (Awaited.header (.reply k ec text)).bodyLen.toNat ∧ (k,ec,text) ∈ state.answers
  next : ∀ k, next = some k → state.point k = some .readHead ∧ state.order[heads]? = some k
  answered : ∀ k ec text, (some k,ec,text) ∈ state.queue → (k,ec,text) ∈ state.answers

def Ordered (cfg : Config) (state : State env) : Prop :=
  ∃ served heads current next, Requests cfg state served ∧ Line state served heads ∧
    Reading cfg state heads current next

def Moved (state next : State env) (k : Nat) (point : Point env) : Prop :=
  ∀ j, next.point j = if k = j then (state.point j).map fun _ => point else state.point j

theorem moved_setPoint (state : State env) (k : Nat) (point : Point env) :
    Moved state (state.setPoint k point) k point := by
  intro j
  simp only [State.point,State.setPoint,List.getElem?_modify]
  split
  · cases state.calls[j]? <;> rfl
  · cases state.calls[j]? <;> rfl

@[simp] theorem frames_nil (cfg : Config) : frames cfg [] = [] := rfl

theorem frames_append (cfg : Config) (queue : List (Option Nat × RpcErrc × Text))
    (request : Option Nat) (ec : RpcErrc) (text : Text) :
    frames cfg (queue ++ [(request,ec,text)]) = frames cfg queue ++ response cfg (packed ec text) 0 := by
  rw [frames,List.map_append]
  exact Awaited.frames_append cfg (queue.map item) _

theorem frames_cons (cfg : Config) (request : Nat) (ec : RpcErrc) (text : Text)
    (queue : List (Option Nat × RpcErrc × Text)) :
    frames cfg ((some request,ec,text)::queue) =
      sentHeader cfg (Awaited.header (.reply request ec text)) ++
        (Awaited.body (.reply request ec text) ++ frames cfg queue) :=
  Awaited.frames_cons cfg (.reply request ec text) (queue.map item)

theorem Moved.self {state next : State env} {k : Nat} {point before : Point env}
    (moved : Moved state next k point) (held : state.point k = some before) : next.point k = some point := by
  rw [moved k,if_pos rfl,held]
  rfl

theorem Moved.other {state next : State env} {k j : Nat} {point : Point env}
    (moved : Moved state next k point) (differs : k ≠ j) : next.point j = state.point j := by
  rw [moved j,if_neg differs]

theorem Moved.inv {state next : State env} {k j : Nat} {point at_ : Point env}
    (moved : Moved state next k point) (held : next.point j = some at_) :
    k = j ∧ at_ = point ∧ (state.point j).isSome = true ∨ k ≠ j ∧ state.point j = some at_ := by
  rw [moved j] at held
  split at held
  · rename_i same
    obtain ⟨before,was,rfl⟩ := Option.map_eq_some_iff.mp held
    exact .inl ⟨same,rfl,by rw [was]; rfl⟩
  · rename_i differs
    exact .inr ⟨differs,held⟩

theorem Requests.move {cfg : Config} {state next : State env} {served k : Nat} {point : Point env}
    (requests : Requests cfg state served) (moved : Moved state next k point) (begun : point ≠ .writing)
    (calls : next.calls.length = state.calls.length) (wire : next.wire = state.wire)
    (order : next.order = state.order) (position : next.position = state.position)
    (serving : next.serving = state.serving) : Requests cfg next served := by
  obtain ⟨same,turn,written,bound,place,stage⟩ := requests
  refine ⟨by rw [calls,wire,same],by rwa [wire,order],?_,by rwa [order],by rwa [position,order,wire],
    by rwa [serving,order,wire]⟩
  rintro j (member | held)
  · rw [wire]
    rw [order] at member
    exact written j (.inl member)
  · obtain ⟨-,rfl,-⟩ | ⟨-,was⟩ := moved.inv held
    · exact absurd rfl begun
    · rw [wire]
      exact written j (.inr was)

theorem Line.move {state next : State env} {served heads k : Nat} {point : Point env}
    (line : Line state served heads) (moved : Moved state next k point)
    (early : k ∈ state.order.take heads → headed point = true)
    (late : k ∈ state.order.drop heads → headed point = false) (order : next.order = state.order)
    (queue : next.queue = state.queue) (unanswered : next.unanswered = state.unanswered) :
    Line next served heads := by
  obtain ⟨bound,same,before,behind⟩ := line
  refine ⟨by rwa [order],by rwa [queue,unanswered,order],?_,?_⟩
  · intro j member at_ held
    rw [order] at member
    obtain ⟨rfl,rfl,-⟩ | ⟨-,was⟩ := moved.inv held
    · exact early member
    · exact before j member at_ was
  · intro j member at_ held
    rw [order] at member
    obtain ⟨rfl,rfl,-⟩ | ⟨-,was⟩ := moved.inv held
    · exact late member
    · exact behind j member at_ was

theorem Line.settle {state next : State env} {served heads k : Nat} {was point : Point env}
    (line : Line state served heads) (moved : Moved state next k point) (held : state.point k = some was)
    (past : headed was = true) (more : headed point = true) (order : next.order = state.order)
    (queue : next.queue = state.queue) (unanswered : next.unanswered = state.unanswered) :
    Line next served heads := by
  refine line.move moved (fun _ => more) (fun member => ?_) order queue unanswered
  have waits := line.behind k member was held
  rw [past] at waits
  cases waits

section call
variable {cfg : Config} {state : State env} {served heads : Nat} {current : Option (Nat × RpcErrc × Text)}
  {next : Option Nat}

theorem point_add (call : CallFor env) (frame : List UInt8) (k : Nat) (old : k < state.calls.length) :
    (state.add call frame).point k = state.point k := by
  simp only [State.point,State.add,List.getElem?_append_left old]

theorem point_bound {k : Nat} {point : Point env} (held : state.point k = some point) :
    k < state.calls.length := by
  obtain ⟨call,found,-⟩ := Option.map_eq_some_iff.mp held
  exact (List.getElem?_eq_some_iff.mp found).1

theorem point_add_inv (call : CallFor env) (frame : List UInt8) (k : Nat) (point : Point env)
    (held : (state.add call frame).point k = some point) :
    state.point k = some point ∨ k = state.calls.length ∧ call.point = point := by
  rcases Nat.lt_or_ge k state.calls.length with old | new
  · rw [point_add call frame k old] at held
    exact .inl held
  · have bound := point_bound held
    have last : k = state.calls.length := by
      simp only [State.add,List.length_append,List.length_singleton] at bound
      omega
    subst last
    simp only [State.point,State.add,List.getElem?_concat_length,Option.map_some,Option.some.injEq] at held
    exact .inr ⟨rfl,held⟩

theorem Requests.serving_grow {grown : State env} (requests : Requests cfg state served)
    (serving : grown.serving = state.serving) (new : List Nat) (order : grown.order = state.order ++ new)
    (frames : ∀ k ∈ state.order, grown.wire.frame k = state.wire.frame k) :
    match grown.serving with
    | .readHead => True
    | .readBody header => ∃ k, grown.order[served]? = some k ∧
        headerSize + header.bodyLen.toNat = (grown.wire.frame k).length
    | .ended => False := by
  have underway := requests.serving
  rw [serving]
  split at underway
  · trivial
  · obtain ⟨k,found,length⟩ := underway
    have inside := (List.getElem?_eq_some_iff.mp found).1
    refine ⟨k,by rw [order,List.getElem?_append_left inside,found],?_⟩
    rw [length,frames k (List.mem_of_getElem? found)]
  · exact underway

theorem Requests.add (requests : Requests cfg state served) (call : CallFor env) (frame : List UInt8)
    (new : call.point = .writing → ∃ functionId buf, frame = callImpl cfg (callHeader functionId) buf) :
    Requests cfg (state.add call frame) served := by
  have frames (k : Nat) (member : k ∈ state.order) : (state.add call frame).wire.frame k = state.wire.frame k :=
    frame_start state.wire frame k (requests.turn.listed k member)
  constructor
  case same =>
    simp [State.add,Wire.start,requests.same]
  case turn => exact requests.turn.start frame
  case written =>
    rintro k (member | held)
    · rw [frames k member]
      exact requests.written k (.inl member)
    · rcases point_add_inv call frame k .writing held with was | ⟨rfl,point⟩
      · have old : k < state.wire.writes.length := by
          rw [← requests.same]
          exact point_bound was
        rw [show (state.add call frame).wire.frame k = state.wire.frame k from frame_start state.wire frame k old]
        exact requests.written k (.inr was)
      · obtain ⟨functionId,buf,same⟩ := new point
        refine ⟨functionId,buf,?_⟩
        rw [← same,requests.same]
        simp [State.add,Wire.frame,Wire.start]
  case bound => exact requests.bound
  case position =>
    refine requests.position.trans (congrArg List.length (List.flatMap_congr fun k member => ?_))
    exact (frames k (List.mem_of_mem_take member)).symm
  case serving =>
    exact requests.serving_grow rfl [] (List.append_nil _).symm frames

theorem Line.add (line : Line state served heads) (same : state.calls.length = state.wire.writes.length)
    (turn : InTurn state.wire state.order) (call : CallFor env) (frame : List UInt8) :
    Line (state.add call frame) served heads := by
  have old (k : Nat) (member : k ∈ state.order) : (state.add call frame).point k = state.point k := by
    apply point_add
    rw [same]
    exact turn.listed k member
  refine ⟨line.bound,line.same,fun k member => ?_,fun k member => ?_⟩
  · rw [old k (List.mem_of_mem_take member)]
    exact line.before k member
  · rw [old k (List.mem_of_mem_drop member)]
    exact line.behind k member

theorem Reading.add (reading : Reading cfg state heads current next) (call : CallFor env) (frame : List UInt8) :
    Reading cfg (state.add call frame) heads current next := by
  have old {k : Nat} {point : Point env} (held : state.point k = some point) :
      (state.add call frame).point k = some point := by
    rw [point_add call frame k (point_bound held),held]
  refine ⟨reading.reads,reading.down,fun k ec text held => ?_,fun k held => ?_,reading.answered⟩
  · obtain ⟨point,size,answer⟩ := reading.current k ec text held
    exact ⟨old point,size,answer⟩
  · obtain ⟨point,first⟩ := reading.next k held
    exact ⟨old point,first⟩

theorem callImpl_length (header : RestRpcHeader) (buf : Text) :
    (callImpl cfg header buf).length = headerSize + buf.octets.length := by
  simp [callImpl]

theorem Requests.send (requests : Requests cfg state served) (k n : Nat) (write : Write UInt8)
    (writing : state.point k = some .writing) (held : state.wire.writes[k]? = some write) (more : 0 < n)
    (fits : write.offset + n ≤ write.frame.length) (turns : Turns state (.send k n)) :
    Requests cfg (state.send k write n) served := by
  have frames (j : Nat) := frame_advance state.wire j k n write held
  have turn := requests.turn.advance k n write held more fits fun j differs => by
    rcases Nat.lt_or_ge j state.wire.writes.length with old | outside
    · exact turns j old differs
    · left
      simp [Wire.offset,List.getElem?_eq_none outside]
  have grown : ∃ new, (state.send k write n).order = state.order ++ new ∧ ∀ j ∈ new, j = k := by
    unfold State.send
    split
    · exact ⟨[k],rfl,fun j => List.mem_singleton.mp⟩
    · exact ⟨[],(List.append_nil _).symm,fun j member => by cases member⟩
  obtain ⟨new,order,only⟩ := grown
  constructor
  case same => simpa [State.send,Wire.advance] using requests.same
  case turn => exact turn
  case written =>
    rintro j (member | at_)
    · rw [order,List.mem_append] at member
      rw [show (state.send k write n).wire.frame j = state.wire.frame j from frames j]
      rcases member with old | fresh
      · exact requests.written j (.inl old)
      · rw [only j fresh]
        exact requests.written k (.inr writing)
    · rw [show (state.send k write n).wire.frame j = state.wire.frame j from frames j]
      exact requests.written j (.inr at_)
  case bound =>
    rw [order,List.length_append]
    exact Nat.le_add_right_of_le requests.bound
  case position =>
    rw [order,List.take_append_of_le_length requests.bound]
    refine requests.position.trans (congrArg List.length (List.flatMap_congr fun j _ => ?_))
    exact (frames j).symm
  case serving =>
    exact requests.serving_grow rfl new order fun j _ => frames j

theorem Line.send (line : Line state served heads) (served_le : served ≤ state.order.length) (k n : Nat)
    (write : Write UInt8) (writing : state.point k = some .writing) :
    Line (state.send k write n) served heads := by
  by_cases first : state.wire.offset k = 0
  · have order : (state.send k write n).order = state.order ++ [k] := if_pos first
    refine ⟨?_,?_,?_,?_⟩
    · rw [order,List.length_append]
      exact Nat.le_add_right_of_le line.bound
    · rw [order,List.drop_append_of_le_length served_le,List.drop_append_of_le_length line.bound,
        List.map_append,List.map_append,← line.same]
      simp [State.send]
    · rw [order,List.take_append_of_le_length line.bound]
      exact line.before
    · rw [order,List.drop_append_of_le_length line.bound]
      intro j member point held
      rcases List.mem_append.mp member with old | new
      · exact line.behind j old point held
      · rw [List.mem_singleton.mp new] at held
        cases writing.symm.trans held
        rfl
  · have order : (state.send k write n).order = state.order := if_neg first
    refine ⟨?_,?_,?_,?_⟩
    · rw [order]
      exact line.bound
    · rw [order]
      exact line.same
    · rw [order]
      exact line.before
    · rw [order]
      exact line.behind

theorem Reading.send (reading : Reading cfg state heads current next) (k n : Nat) (write : Write UInt8) :
    Reading cfg (state.send k write n) heads current next := by
  refine ⟨reading.reads,reading.down,reading.current,fun j held => ?_,reading.answered⟩
  obtain ⟨point,first⟩ := reading.next j held
  refine ⟨point,?_⟩
  unfold State.send
  dsimp only
  split
  · rw [List.getElem?_append_left (List.getElem?_eq_some_iff.mp first).1,first]
  · exact first

/-- The call that starts to read is the next in line. -/
theorem Line.first (line : Line state served heads) (k : Nat) (member : k ∈ state.order)
    (writing : state.point k = some .writing) (all : ∀ j ∈ state.order, ∃ point, state.point j = some point)
    (turns : Turns state (.wrote k)) : state.order[heads]? = some k := by
  have late : k ∈ state.order.drop heads := by
    have either : k ∈ state.order.take heads ++ state.order.drop heads := by
      rwa [List.take_append_drop]
    refine (List.mem_append.mp either).resolve_left fun early => ?_
    cases line.before k early .writing writing
  cases split : state.order.drop heads with
  | nil => simp [split] at late
  | cons j rest =>
    have found : state.order[heads]? = some j := by
      rw [← List.head?_drop,split]
      rfl
    by_cases same : j = k
    · rw [found,same]
    · have ahead : j ∈ state.order.takeWhile (· ≠ k) := by
        have early (i : Nat) (inside : i ∈ state.order.take heads) : decide (i ≠ k) = true := by
          refine decide_eq_true fun same => ?_
          rw [same] at inside
          cases line.before k inside .writing writing
        rw [← List.take_append_drop heads state.order,split,List.takeWhile_append_of_pos early,
          List.takeWhile_cons_of_pos (by simpa using same)]
        simp
      obtain ⟨point,held⟩ := all j (List.mem_of_getElem? found)
      have past := turns j ahead
      have waits := line.behind j (by simp [split]) point held
      rw [held,Option.all_some] at past
      rw [headed_of_passed past] at waits
      cases waits

theorem Reading.wrote (reading : Reading cfg state heads current next) (k : Nat) (past : State env)
    (writing : state.point k = some .writing) (first : state.order[heads]? = some k)
    (moved : Moved state past k .readHead) (reads : past.reads = state.reads ++ [k])
    (down : past.down = state.down) (queue : past.queue = state.queue) (bodySize : past.bodySize = state.bodySize)
    (order : past.order = state.order) (answers : past.answers = state.answers) :
    Reading cfg past heads current (some k) := by
  have free : next = none := by
    cases held : next with
    | none => rfl
    | some j =>
      obtain ⟨point,found⟩ := reading.next j held
      cases first.symm.trans found
      cases writing.symm.trans point
  subst free
  refine ⟨?_,by rw [down,queue,reading.down],fun j ec text held => ?_,fun j held => ?_,?_⟩
  · rw [reads,reading.reads]
    simp
  · obtain ⟨point,size,answer⟩ := reading.current j ec text held
    have differs : k ≠ j := by
      rintro rfl
      cases writing.symm.trans point
    exact ⟨by rw [moved.other differs,point],by rw [bodySize,size],by rwa [answers]⟩
  · cases held
    exact ⟨moved.self writing,by rw [order,first]⟩
  · rw [queue,answers]
    exact reading.answered

theorem drop_of_found {order : List Nat} {i k : Nat} (found : order[i]? = some k) :
    order.drop i = k::order.drop (i+1) := by
  have inside := (List.getElem?_eq_some_iff.mp found).1
  rw [List.drop_eq_getElem_cons inside,(List.getElem_eq_iff inside).mpr found]

theorem Requests.found (requests : Requests cfg state served) (n : Nat) (k : Nat)
    (next : state.order[served]? = some k) (small : n ≤ (state.wire.frame k).length)
    (enough : state.position + n ≤ state.wire.sent.length) :
    (state.wire.sent.drop state.position).take n = tagged k ((state.wire.frame k).take n) := by
  have split : state.order = state.order.take served ++ k::state.order.drop (served+1) := by
    rw [← drop_of_found next,List.take_append_drop]
  rw [requests.position] at enough ⊢
  exact requests.turn.front _ _ k n split small enough

theorem Requests.more (requests : Requests cfg state served) (n : Nat) (positive : 0 < n)
    (enough : state.position + n ≤ state.wire.sent.length) : ∃ k, state.order[served]? = some k := by
  rcases Nat.lt_or_ge served state.order.length with inside | all
  · exact ⟨_,List.getElem?_eq_getElem inside⟩
  · have sent := requests.turn.length_sent
    rw [requests.position,List.take_of_length_le all] at enough
    omega

theorem owner_tagged (wire : Wire UInt8) (k : Nat) (nonempty : wire.frame k ≠ []) :
    owner wire (tagged k (wire.frame k)) = some k := by
  cases octets : wire.frame k with
  | nil => exact absurd octets nonempty
  | cons octet rest => simp [owner,tagged,octets]

theorem Requests.accept (requests : Requests cfg state served) (line : Line state served heads) (k : Nat)
    (found : state.order[served]? = some k)
    (enough : state.position + (state.wire.frame k).length ≤ state.wire.sent.length) :
    Requests cfg (accept state (state.wire.frame k).length) (served+1) ∧
      Line (accept state (state.wire.frame k).length) (served+1) heads := by
  have inside := (List.getElem?_eq_some_iff.mp found).1
  have taken := requests.found _ k found (Nat.le_refl _) enough
  obtain ⟨functionId,buf,frame⟩ := requests.written k (.inl (List.mem_of_getElem? found))
  have nonempty : state.wire.frame k ≠ [] := by
    apply List.ne_nil_of_length_pos
    rw [frame,callImpl_length,headerSize]
    omega
  rw [List.take_length] at taken
  constructor
  · refine ⟨requests.same,requests.turn,requests.written,inside,?_,trivial⟩
    change state.position + (state.wire.frame k).length =
      ((state.order.take (served+1)).flatMap state.wire.frame).length
    rw [List.take_add_one,found,List.flatMap_append,List.length_append,requests.position]
    simp
  · refine ⟨line.bound,?_,line.before,line.behind⟩
    change state.queue.map (·.1) ++ (state.unanswered ++ [owner state.wire
      ((state.wire.sent.drop state.position).take (state.wire.frame k).length)]) ++
        (state.order.drop (served+1)).map some = (state.order.drop heads).map some
    rw [← line.same,taken,owner_tagged _ _ nonempty,drop_of_found found]
    simp

theorem serveHead_ordered (ordered : Ordered cfg state)
    (enough : state.position + headerSize ≤ state.wire.sent.length) :
    Ordered cfg (afterServeHead cfg state) := by
  obtain ⟨served,heads,current,next,requests,line,reading⟩ := ordered
  obtain ⟨k,found⟩ := requests.more headerSize (by simp [headerSize]) enough
  obtain ⟨functionId,buf,frame⟩ := requests.written k (.inl (List.mem_of_getElem? found))
  have length : (state.wire.frame k).length = headerSize + buf.octets.length := by
    rw [frame,callImpl_length]
  have octets : ((state.wire.sent.drop state.position).take headerSize).map (·.2) =
      sentHeader cfg ((callHeader functionId).withBodyLen buf.octets.length) := by
    rw [requests.found headerSize k found (by omega) enough,frame,callImpl,
      ← sentHeader_length cfg ((callHeader functionId).withBodyLen buf.octets.length),List.take_left]
    simp [tagged]
  have read := afterHead_call cfg functionId buf
  unfold afterServeHead
  rw [octets]
  dsimp only at read ⊢
  rw [read]
  by_cases nothing : buf.octets = []
  · have whole : headerSize = (state.wire.frame k).length := by simp [length,nothing]
    rw [whole] at enough
    obtain ⟨requests,line⟩ := requests.accept line k found enough
    simp only [nothing,if_true]
    rw [whole]
    exact ⟨served+1,heads,current,next,requests,line,
      ⟨reading.reads,reading.down,reading.current,reading.next,reading.answered⟩⟩
  · simp only [nothing,if_false]
    refine ⟨served,heads,current,next,⟨requests.same,requests.turn,requests.written,requests.bound,
      requests.position,k,found,?_⟩,⟨line.bound,line.same,line.before,line.behind⟩,
      ⟨reading.reads,reading.down,reading.current,reading.next,reading.answered⟩⟩
    rw [withBodyLen_bodyLen,ofNat_length _ (by have := buf.bound; omega)]
    exact length.symm

theorem serveBody_ordered (ordered : Ordered cfg state) (header : RestRpcHeader)
    (point : state.serving = .readBody header)
    (enough : state.position + (headerSize + header.bodyLen.toNat) ≤ state.wire.sent.length) :
    Ordered cfg (accept state (headerSize + header.bodyLen.toNat)) := by
  obtain ⟨served,heads,current,next,requests,line,reading⟩ := ordered
  have serving := requests.serving
  rw [point] at serving
  obtain ⟨k,found,whole⟩ := serving
  rw [whole] at enough ⊢
  obtain ⟨requests,line⟩ := requests.accept line k found enough
  exact ⟨served+1,heads,current,next,requests,line,
    ⟨reading.reads,reading.down,reading.current,reading.next,reading.answered⟩⟩

theorem answer_ordered (ordered : Ordered cfg state) (request : Option Nat) (ec : RpcErrc) (text : Text)
    (first : state.unanswered[0]? = some request) : Ordered cfg (answer cfg state 0 request ec text) := by
  obtain ⟨served,heads,current,next,requests,line,reading⟩ := ordered
  have split : state.unanswered = request::state.unanswered.eraseIdx 0 := by
    cases others : state.unanswered with
    | nil => simp [others] at first
    | cons other rest =>
      simp only [others,List.getElem?_cons_zero,Option.some.injEq] at first
      simp [first]
  refine ⟨served,heads,current,next,⟨requests.same,requests.turn,requests.written,requests.bound,
    requests.position,requests.serving⟩,⟨line.bound,?_,line.before,line.behind⟩,
    ⟨reading.reads,?_,fun k ec text held => ?_,reading.next,fun k other payload member => ?_⟩⟩
  · have same := line.same
    rw [split] at same
    simpa [answer] using same
  · change state.down ++ response cfg (packed ec text) 0 = rest current ++ frames cfg (state.queue ++ [_])
    rw [frames_append,reading.down,List.append_assoc]
  · obtain ⟨point,size,answer⟩ := reading.current k ec text held
    exact ⟨point,size,List.mem_append_right _ answer⟩
  · rcases List.mem_append.mp member with old | new
    · exact List.mem_append_right _ (reading.answered k other payload old)
    · cases List.mem_singleton.mp new
      exact List.mem_append_left _ (List.mem_singleton.mpr rfl)

theorem Reading.header (reading : Reading cfg state heads current next) {k : Nat} {reads : List Nat}
    (pending : state.reads = k::reads) (at_ : state.point k = some .readHead) :
    current = none ∧ next = some k ∧ reads = [] := by
  have place := reading.reads
  rw [pending] at place
  obtain rfl : current = none := by
    cases who : current with
    | none => rfl
    | some answer =>
      obtain ⟨j,ec,text⟩ := answer
      obtain ⟨reads,-⟩ := reading.current j ec text who
      rw [who] at place
      cases place
      cases at_.symm.trans reads
  cases who : next with
  | none =>
    rw [who] at place
    cases place
  | some j =>
    rw [who] at place
    cases place
    exact ⟨rfl,rfl,rfl⟩

/-- The first response in flight is for the next call in line. -/
theorem Line.front (line : Line state served heads) {k : Nat} (found : state.order[heads]? = some k)
    {request : Option Nat} {ec : RpcErrc} {text : Text} {queue : List (Option Nat × RpcErrc × Text)}
    (waiting : state.queue = (request,ec,text)::queue) :
    request = some k ∧ queue.map (·.1) ++ state.unanswered ++ (state.order.drop served).map some =
      (state.order.drop (heads+1)).map some := by
  have same := line.same
  rw [drop_of_found found,waiting] at same
  simpa using same

theorem Line.header (line : Line state served heads) (distinct : state.order.Nodup) {k : Nat} {after : State env}
    {header : RestRpcHeader} (found : state.order[heads]? = some k) (moved : Moved state after k (.readBody header))
    (order : after.order = state.order) (same : after.queue.map (·.1) ++ after.unanswered ++
      (state.order.drop served).map some = (state.order.drop (heads+1)).map some) :
    Line after served (heads+1) := by
  have drop := drop_of_found found
  refine ⟨?_,by rwa [order],fun j member at_ held => ?_,fun j member at_ held => ?_⟩
  · rw [order]
    exact (List.getElem?_eq_some_iff.mp found).1
  · obtain ⟨rfl,rfl,-⟩ | ⟨differs,was⟩ := moved.inv held
    · rfl
    · rw [order,List.take_add_one,found] at member
      rcases List.mem_append.mp member with old | new
      · exact line.before j old at_ was
      · exact absurd (List.mem_singleton.mp new).symm differs
  · rw [order] at member
    have listed : j ∈ state.order.drop heads := by
      rw [drop]
      exact List.mem_cons_of_mem _ member
    obtain ⟨rfl,rfl,-⟩ | ⟨-,was⟩ := moved.inv held
    · have apart := distinct.sublist (List.drop_sublist heads state.order)
      rw [drop] at apart
      exact absurd member (List.nodup_cons.mp apart).1
    · exact line.behind j listed at_ was

/-- The header that a call reads is that of the response to its request. -/
theorem head_ordered (ordered : Ordered cfg state) (k : Nat) (call : CallFor env) (reads : List Nat)
    (after : State env) (pending : state.reads = k::reads) (held : state.calls[k]? = some call)
    (point : call.point = .readHead) (enough : headerSize ≤ state.down.length)
    (read : afterHead cfg state k call.R reads = some after) :
    Ordered cfg after ∧ ∃ header, Moved state after k (.readBody header) ∧ after.answers = state.answers ∧
      after.results = state.results := by
  obtain ⟨served,heads,current,next,requests,line,reading⟩ := ordered
  have at_ : state.point k = some .readHead := by rw [State.point,held,Option.map_some,point]
  obtain ⟨rfl,rfl,rfl⟩ := reading.header pending at_
  obtain ⟨-,found⟩ := reading.next k rfl
  have down : state.down = frames cfg state.queue := reading.down
  cases waiting : state.queue with
  | nil =>
    rw [down,waiting,headerSize] at enough
    simp at enough
  | cons answer queue =>
    obtain ⟨request,ec,text⟩ := answer
    obtain ⟨rfl,same⟩ := line.front found waiting
    have size := sentHeader_length cfg (Awaited.header (.reply k ec text))
    rw [waiting,frames_cons] at down
    have taken : state.down.take headerSize = sentHeader cfg (Awaited.header (.reply k ec text)) := by
      rw [down,← size,List.take_left]
    unfold afterHead at read
    rw [taken,Awaited.afterHead_frame] at read
    cases read
    have moved : Moved state _ k (.readBody (Awaited.header (.reply k ec text))) := moved_setPoint _ k _
    refine ⟨⟨served,heads+1,some (k,ec,text),none,?_,?_,?_⟩,_,moved,rfl,rfl⟩
    · exact requests.move moved (by simp) (by simp [State.setPoint]) rfl rfl rfl rfl
    · refine line.header requests.turn.distinct found moved rfl ?_
      change (state.queue.drop 1).map (·.1) ++ _ ++ _ = _
      rw [waiting]
      exact same
    · refine ⟨rfl,?_,fun j other payload who => ?_,fun j who => (by cases who),fun j other payload member => ?_⟩
      · change state.down.drop headerSize = Awaited.body (.reply k ec text) ++ frames cfg (state.queue.drop 1)
        rw [down,waiting,← size,List.drop_left]
        rfl
      · cases who
        exact ⟨moved.self at_,rfl,reading.answered k ec text (by rw [waiting]; exact List.mem_cons_self)⟩
      · exact reading.answered j other payload (List.mem_of_mem_drop member)

theorem Reading.body (reading : Reading cfg state heads current next) {k : Nat} {reads : List Nat}
    {header : RestRpcHeader} (pending : state.reads = k::reads) (at_ : state.point k = some (.readBody header)) :
    (∃ ec text, current = some (k,ec,text)) ∧ reads = next.toList := by
  have place := reading.reads
  rw [pending] at place
  cases who : current with
  | none =>
    cases behind : next with
    | none =>
      rw [who,behind] at place
      cases place
    | some j =>
      obtain ⟨waits,-⟩ := reading.next j behind
      rw [who,behind] at place
      cases place
      cases at_.symm.trans waits
  | some answer =>
    obtain ⟨j,ec,text⟩ := answer
    rw [who] at place
    cases place
    exact ⟨⟨ec,text,rfl⟩,rfl⟩

/-- The body that a call reads is that of the response whose header it has read. -/
theorem body_ordered {sp : StructPack env} (ordered : Ordered cfg state) (k : Nat) (call : CallFor env)
    (header : RestRpcHeader) (reads : List Nat) (after : State env) (pending : state.reads = k::reads)
    (held : state.calls[k]? = some call) (point : call.point = .readBody header)
    (read : afterBody sp state k call.R header reads = some after) :
    Ordered cfg after ∧ ∃ target, Moved state after k target ∧
      (∀ outcome, target = .done outcome → Answered sp state.answers k outcome) ∧
        after.answers = state.answers ∧ after.results = state.results := by
  obtain ⟨served,heads,current,next,requests,line,reading⟩ := ordered
  have at_ : state.point k = some (.readBody header) := by rw [State.point,held,Option.map_some,point]
  obtain ⟨⟨ec,text,rfl⟩,rest_reads⟩ := reading.body pending at_
  obtain ⟨reads_body,-,answer⟩ := reading.current k ec text rfl
  cases at_.symm.trans reads_body
  have down : state.down = Awaited.body (.reply k ec text) ++ frames cfg state.queue := reading.down
  have taken : state.down.take (Awaited.header (.reply k ec text)).bodyLen.toNat =
      Awaited.body (.reply k ec text) := by
    rw [down,Awaited.bodyLen_header,List.take_left]
  have left : state.down.drop (Awaited.header (.reply k ec text)).bodyLen.toNat = frames cfg state.queue := by
    rw [down,Awaited.bodyLen_header,List.drop_left]
  have settled (target : Point env) (past : headed target = true) : Ordered cfg (({state with
      down := state.down.drop (Awaited.header (.reply k ec text)).bodyLen.toNat
      reads := reads} : State env).setPoint k target) := by
    have moved := moved_setPoint ({state with
      down := state.down.drop (Awaited.header (.reply k ec text)).bodyLen.toNat
      reads := reads} : State env) k target
    have moved : Moved state _ k target := moved
    refine ⟨served,heads,none,next,?_,line.settle moved at_ rfl past rfl rfl rfl,
      ⟨rest_reads,left,fun j other payload who => (by cases who),fun j who => ?_,reading.answered⟩⟩
    · refine requests.move moved ?_ (by simp [State.setPoint]) rfl rfl rfl rfl
      rintro rfl
      cases past
    · obtain ⟨waits,found⟩ := reading.next j who
      have differs : k ≠ j := by
        rintro rfl
        cases at_.symm.trans waits
      exact ⟨by rw [moved.other differs,waits],found⟩
  unfold afterBody at read
  dsimp only at read
  rw [taken] at read
  split at read
  · cases read
  · cases read
  · cases read
    exact ⟨settled .threw rfl,.threw,moved_setPoint _ k _,fun outcome same => (by cases same),rfl,rfl⟩
  · rename_i result returned
    cases read
    refine ⟨settled (.done ⟨call.R,result⟩) rfl,_,moved_setPoint _ k _,fun outcome same => ?_,rfl,rfl⟩
    cases same
    intro ok
    have decodes := Awaited.afterBody_frame sp call.R (.reply k ec text) result returned
    have same := decoded_ec sp ec text call.R result decodes
    rw [show result.ec = RpcErrc.ok from ok] at same
    subst same
    exact ⟨text,answer,decodes⟩

theorem Ordered.settle {after : State env} (ordered : Ordered cfg state) (k : Nat) (was target : Point env)
    (moved : Moved state after k target) (held : state.point k = some was) (past : headed was = true)
    (waits : ∀ header, was ≠ .readBody header) (more : headed target = true)
    (calls : after.calls.length = state.calls.length) (wire : after.wire = state.wire)
    (order : after.order = state.order) (position : after.position = state.position)
    (serving : after.serving = state.serving) (queue : after.queue = state.queue)
    (unanswered : after.unanswered = state.unanswered) (reads : after.reads = state.reads)
    (down : after.down = state.down) (bodySize : after.bodySize = state.bodySize)
    (answers : after.answers = state.answers) : Ordered cfg after := by
  obtain ⟨served,heads,current,next,requests,line,reading⟩ := ordered
  refine ⟨served,heads,current,next,?_,line.settle moved held past more order queue unanswered,
    ⟨by rw [reads,reading.reads],by rw [down,queue,reading.down],fun j ec text who => ?_,fun j who => ?_,?_⟩⟩
  · refine requests.move moved ?_ calls wire order position serving
    rintro rfl
    cases more
  · obtain ⟨point,size,answer⟩ := reading.current j ec text who
    have differs : k ≠ j := by
      rintro rfl
      cases held.symm.trans point
      exact waits _ rfl
    exact ⟨by rw [moved.other differs,point],by rw [bodySize,size],by rwa [answers]⟩
  · obtain ⟨point,found⟩ := reading.next j who
    have differs : k ≠ j := by
      rintro rfl
      cases held.symm.trans point
      cases past
    exact ⟨by rw [moved.other differs,point],by rw [order,found]⟩
  · rw [queue,answers]
    exact reading.answered

end call

theorem moved_set {state next : State env} {k : Nat} {call : CallFor env} (point : Point env) (armed : Bool)
    (held : state.calls[k]? = some call)
    (calls : next.calls = state.calls.set k {call with point := point,armed := armed}) :
    Moved state next k point := by
  intro j
  have bound := (List.getElem?_eq_some_iff.mp held).1
  simp only [State.point,calls,List.getElem?_set]
  split
  · rename_i same
    subst same
    simp [bound]
  · rfl

end RestRpc.CallLine
