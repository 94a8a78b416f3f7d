import RestRpc.IntegerTuples
import RestRpc.Session

/-! That calls come to an end. A call that its server never answers is ended by its watchdog; whatever happens, it
has one outcome, and a caller that waits for it sees the outcomes in the order of the calls. -/
namespace RestRpc.CallProgress
open Automaton ErrorCode Codec Router Connection Client Session Session.State IntegerTuples

variable {env : TypeEnv}

/-- The completions that are still to come at a point, at most. -/
def toCome : Point env → Nat
  | .writing => 3
  | .readHead => 2
  | .readBody _ => 1
  | _ => 0

def opToCome : Op env → Nat
  | .idle => 0
  | .calling _ impl _ => toCome impl.point
  | .subscribing _ impl _ => toCome impl.point

def completes : Event env → Bool
  | .wrote _ => true
  | .head .. => true
  | .body _ => true
  | _ => false

def begins : Event env → Bool
  | .call .. => true
  | .subscribe .. => true
  | _ => false

def unreturned : Op env → Nat
  | .calling .. => 1
  | _ => 0

/-- The part of a state that the results and the handlers depend on. -/
structure Ledger (env : TypeEnv) where
  op : Op env
  calls : Nat
  results : List (Nat × Outcome env)
  subOps : List UInt32
  spent : List UInt32

def ledger (state : State env) : Ledger env :=
  ⟨state.op,state.calls,state.results,state.subOps,state.spent⟩

def Ledger.complete (ledger : Ledger env) (completion : Completion) : Ledger env :=
  {ledger with spent := ledger.subOps.filter completion.covers ++ ledger.spent}

inductive Turn (before : Ledger env) : Event env → Ledger env → Prop
  | aside (event : Event env) (passive : completes event = false ∧ begins event = false) :
      Turn before event before
  | called (R : ReturnType env) (packs : Bool) (impl : Impl env) (idle : before.op = .idle)
      (few : toCome impl.point ≤ 3) :
      Turn before (.call R packs) {before with op := .calling before.calls impl .armed,calls := before.calls+1}
  | subscribed (topicId : UInt32) (R : ReturnType env) (impl : Impl env) (subOps : List UInt32)
      (idle : before.op = .idle) (few : toCome impl.point ≤ 3)
      (stored : ∀ topic, topic ∈ subOps ↔ topic = topicId ∨ topic ∈ before.subOps) :
      Turn before (.subscribe topicId R) {before with
        op := .subscribing topicId impl false
        subOps := subOps
        spent := before.spent.filter (· ≠ topicId)}
  | went (event : Event env) (request : Nat) (impl after : Impl env) (watchdog : Watchdog)
      (completion : Completion) (running : before.op = .calling request impl watchdog)
      (less : toCome after.point < toCome impl.point) (passive : begins event = false) :
      Turn before event {before.complete completion with op := .calling request after watchdog}
  | waited (event : Event env) (topicId : UInt32) (impl after : Impl env) (completed : Bool)
      (completion : Completion) (running : before.op = .subscribing topicId impl completed)
      (less : toCome after.point < toCome impl.point) (passive : begins event = false) :
      Turn before event {before.complete completion with
        op := .subscribing topicId after (completed || completion.covers topicId)}
  | expired (request : Nat) (impl : Impl env) (running : before.op = .calling request impl .armed) :
      Turn before .expire {before with op := .calling request impl (.expired impl.point)}
  | returned (request : Nat) (impl : Impl env) (watchdog : Watchdog) (outcome : Outcome env)
      (running : before.op = .calling request impl watchdog) :
      Turn before .opReturn {before with op := .idle,results := (request,outcome)::before.results}
  | unsubscribed (topicId : UInt32) (impl : Impl env) (running : before.op = .subscribing topicId impl true) :
      Turn before .opReturn {before with op := .idle}

structure Further (state : State env) (impl : Impl env) (after : After env) : Prop where
  less : toCome after.impl.point < toCome impl.point
  kept : ∀ op, ledger {after.state with op := op} = {ledger state with op := op}

theorem Further.completes {state : State env} {impl : Impl env} {after : After env}
    (further : Further state impl after) (op : Op env) :
    ledger {after.state.complete after.completion with op := op} =
      {(ledger state).complete after.completion with op := op} := by
  obtain ⟨next,_,completion⟩ := after
  have same := further.kept op
  simp only [ledger,Ledger.mk.injEq] at same
  simp [ledger,Ledger.complete,State.complete,same]

theorem further_write (state : State env) (impl : Impl env) (ok : Bool) (after : After env)
    (done : afterWrite state impl ok = some after) : Further state impl after := by
  obtain ⟨point,rfl | rfl⟩ := afterWrite_cases state impl ok after done
  · exact ⟨by simp [point,toCome,ioError],fun _ => rfl⟩
  · exact ⟨by simp [point,toCome],fun _ => rfl⟩

theorem further_head (cfg : Config) (state : State env) (impl : Impl env) (ok allocated : Bool) (after : After env)
    (done : waitHead cfg state impl ok allocated = some after) : Further state impl after := by
  obtain ⟨point,⟨-,rfl⟩ | ⟨-,s,-,-,read⟩⟩ := waitHead_cases cfg state impl ok allocated after done
  · exact ⟨by simp [point,toCome,ioError],fun _ => rfl⟩
  · unfold Session.afterHead at read
    split at read
    · cases read
    all_goals
      cases read
      exact ⟨by simp [point,toCome],fun _ => rfl⟩

theorem further_body (sp : StructPack env) (state : State env) (impl : Impl env) (ok : Bool) (after : After env)
    (done : waitBody sp state impl ok = some after) : Further state impl after := by
  obtain ⟨header,point,⟨-,rfl⟩ | ⟨-,s,-,-,read⟩⟩ := waitBody_cases sp state impl ok after done
  · exact ⟨by simp [point,toCome,ioError],fun _ => rfl⟩
  · unfold Session.afterBody at read
    dsimp only at read
    generalize Client.afterBody sp impl.R header _ = received at read
    cases received with
    | readError => cases read
    | outside => cases read
    | threw =>
      cases read
      exact ⟨by simp [point,toCome],fun _ => rfl⟩
    | returned =>
      cases read
      exact ⟨by simp [point,toCome],fun _ => rfl⟩

theorem resume_toCome (watchdog : Watchdog) (impl : Impl env) :
    toCome (watchdog.resume impl).point ≤ toCome impl.point := by
  obtain ⟨R,pending,point⟩ := impl
  cases watchdog <;> cases point <;> simp [Watchdog.resume,toCome]

theorem consume_ledger (state : State env) (ok : Bool) :
    ledger (if ok then consume state else state) = ledger state := by
  cases ok with
  | false => rfl
  | true =>
    rw [if_pos rfl]
    unfold consume
    split <;> rfl

theorem turn_step (sp : StructPack env) (cfg : Config) (state next : State env) (event : Event env)
    (taken : step sp cfg state event = some next) : Turn (ledger state) event (ledger next) := by
  cases step_cases sp cfg state next event taken with
  | connect =>
    have same : ledger state.connect = ledger state := by
      unfold State.connect
      extract_lets fresh
      unfold fresh
      split <;> rfl
    rw [same]
    exact .aside _ ⟨rfl,rfl⟩
  | resolved i ok armed => exact .aside _ ⟨rfl,rfl⟩
  | dial => exact .aside _ ⟨rfl,rfl⟩
  | dialed => exact .aside _ ⟨rfl,rfl⟩
  | dialFailed => exact .aside _ ⟨rfl,rfl⟩
  | connectExpired => exact .aside _ ⟨rfl,rfl⟩
  | connected => exact .aside _ ⟨rfl,rfl⟩
  | connectFailed => exact .aside _ ⟨rfl,rfl⟩
  | call R packs idle =>
    unfold State.call
    extract_lets called writing
    cases packs with
    | false => exact .called R false ⟨R,state.linked,.threw⟩ idle (by simp [toCome])
    | true =>
      have called : Turn (ledger state) (.call R true) {ledger state with
          op := .calling state.calls ⟨R,state.linked,.writing⟩ .armed
          calls := state.calls+1} := .called R true _ idle (by simp [toCome])
      rw [if_pos rfl]
      split <;> exact called
  | subscribe topicId R idle =>
    unfold State.subscribe
    extract_lets stored
    split
    · rename_i known
      refine .subscribed topicId R ⟨R,state.linked,.readHead⟩ state.subOps idle (by simp [toCome]) fun topic => ?_
      exact ⟨.inr,fun stored => stored.elim (fun same => same ▸ known) id⟩
    · exact .subscribed topicId R ⟨R,state.linked,.writing⟩ (topicId::state.subOps) idle (by simp [toCome])
        fun topic => List.mem_cons
  | callWrote request impl watchdog ok after running done =>
    have further := further_write state impl ok after done
    rw [further.completes]
    exact .went _ request impl _ watchdog _ running ((resume_toCome watchdog _).trans_lt further.less) rfl
  | callHead request impl watchdog ok allocated after running done =>
    have further := further_head cfg _ impl ok allocated after done
    rw [further.completes,consume_ledger]
    exact .went _ request impl _ watchdog _ running ((resume_toCome watchdog _).trans_lt further.less) rfl
  | callBody request impl watchdog ok after running done =>
    have further := further_body sp state impl ok after done
    rw [further.completes]
    exact .went _ request impl _ watchdog _ running ((resume_toCome watchdog _).trans_lt further.less) rfl
  | subscribeWrote topicId impl completed ok after running done =>
    have further := further_write state impl ok after done
    rw [further.completes]
    exact .waited _ topicId impl after.impl completed _ running further.less rfl
  | subscribeHead topicId impl completed ok allocated after running done =>
    have further := further_head cfg state impl ok allocated after done
    rw [further.completes]
    exact .waited _ topicId impl after.impl completed _ running further.less rfl
  | subscribeBody topicId impl completed ok after running done =>
    have further := further_body sp state impl ok after done
    rw [further.completes]
    exact .waited _ topicId impl after.impl completed _ running further.less rfl
  | expire request impl running => exact .expired request impl running
  | callReturn request R pending outcome watchdog running => exact .returned request _ watchdog outcome running
  | callTimeout request R pending point running => exact .returned request _ .won _ running
  | subscribeReturn topicId R pending outcome running => exact .unsubscribed topicId _ running
  | closeNothing => exact .aside _ ⟨rfl,rfl⟩
  | closeInline => exact .aside _ ⟨rfl,rfl⟩
  | closePost => exact .aside _ ⟨rfl,rfl⟩
  | closePosted => exact .aside _ ⟨rfl,rfl⟩
  | answer => exact .aside _ ⟨rfl,rfl⟩
  | publish => exact .aside _ ⟨rfl,rfl⟩

/-- Over any part of a run, each call and each subscription takes three completions at most: its write, a header
and a body. -/
theorem completions_bounded (sp : StructPack env) (cfg : Config) (events : List (Event env))
    (state final : State env) (ran : run (step sp cfg) state events = some final) :
    events.countP completes + opToCome final.op ≤ opToCome state.op + 3 * events.countP begins := by
  refine (run_potential (fun _ => True) completes begins 3 (fun state => opToCome state.op) ?_ events state final
    trivial ran).2
  intro state event next _ taken
  refine ⟨trivial,?_⟩
  change (completes event).toNat + opToCome (ledger next).op ≤ opToCome (ledger state).op + 3 * (begins event).toNat
  have one : (completes event).toNat ≤ 1 := Bool.toNat_le _
  have turn := turn_step sp cfg state next event taken
  generalize ledger next = after at turn ⊢
  cases turn with
  | aside _ passive => simp [passive]
  | called R packs impl idle few => simpa [completes,begins,idle,opToCome] using few
  | subscribed topicId R impl subOps idle few => simpa [completes,begins,idle,opToCome] using few
  | went _ request impl after watchdog completion running less passive =>
    simp only [running,opToCome,passive,Bool.toNat_false]
    omega
  | waited _ topicId impl after completed completion running less passive =>
    simp only [running,opToCome,passive,Bool.toNat_false]
    omega
  | expired request impl running => simp [completes,begins,running,opToCome]
  | returned => simp [completes,begins,opToCome]
  | unsubscribed => simp [completes,begins,opToCome]

theorem completions_bounded_failed :
    let events : List (Event noStruct) := [.call none true,.wrote false,.opReturn]
    ∃ final, run (step integerTuples ⟨.little,false⟩) {} events = some final ∧
      final.results.map (fun (request,outcome) => (request,outcome.result.ec)) = [(0,.writeError)] ∧
        events.countP completes + opToCome final.op ≤ opToCome (.idle : Op noStruct) + 3 * events.countP begins :=
  ⟨_,rfl,rfl,completions_bounded integerTuples ⟨.little,false⟩ [.call none true,.wrote false,.opReturn] {} _ rfl⟩

def Awaits (topic : UInt32) : Op env → Prop
  | .subscribing topicId _ completed => topicId = topic ∧ completed = false
  | _ => False

/-- The calls that have returned did so in order, a call whose watchdog came too late has ended, and every
handler is spent but the one that is waited for. -/
structure Ordered (ledger : Ledger env) : Prop where
  results : ledger.results.map Prod.fst = (List.range (ledger.calls - unreturned ledger.op)).reverse
  current : ∀ request impl watchdog, ledger.op = .calling request impl watchdog → request+1 = ledger.calls
  lost : ∀ request impl, ledger.op = .calling request impl .lost → ∃ outcome, impl.point = .done outcome
  known : ∀ topicId impl completed, ledger.op = .subscribing topicId impl completed → topicId ∈ ledger.subOps
  spent : ∀ topic ∈ ledger.subOps, topic ∈ ledger.spent ∨ Awaits topic ledger.op

theorem Ordered.complete {before : Ledger env} (ordered : Ordered before) (completion : Completion) :
    Ordered (before.complete completion) :=
  {ordered with
    spent := fun topic stored => (ordered.spent topic stored).imp_left fun spent => List.mem_append_right _ spent}

def reads : Point env → Bool
  | .readHead => true
  | .readBody _ => true
  | _ => false

def failing : Point env → List (Event env)
  | .writing => [.wrote false]
  | .readHead => [.head false true]
  | .readBody _ => [.body false]
  | _ => []

/-- What is left of a call when its watchdog expires. -/
def ending (point : Point env) : Watchdog → List (Event env)
  | .armed => .expire::failing point ++ [.opReturn]
  | .won => failing point ++ [.opReturn]
  | .lost => [.opReturn]

theorem step_alive (sp : StructPack env) (cfg : Config) (state : State env) (event : Event env)
    (lives : state.crashed = false) : step sp cfg state event = act sp cfg state event := by simp [step,lives]

theorem fails (sp : StructPack env) (cfg : Config) (state : State env) (request : Nat) (impl : Impl env)
    (lives : state.crashed = false) (running : state.op = .calling request impl .won) :
    ∃ next outcome, run (step sp cfg) state (failing impl.point) = some next ∧ next.results = state.results ∧
      (next.crashed = true ↔ reads impl.point = true ∧ ∃ topic ∈ state.subOps, topic ∈ state.spent) ∧
        opReturn next = some {next with op := .idle,results := (request,outcome)::state.results} := by
  obtain ⟨R,pending,point⟩ := impl
  let failed (ec : RpcErrc) : Impl env := ⟨R,pending,.done ⟨R,{ec := ec}⟩⟩
  cases point with
  | writing =>
    let next : State env := {state.closeSocket.complete .nothing with op := .calling request (failed .writeError) .won}
    have taken : step sp cfg state (.wrote false) = some next := by
      rw [step_alive sp cfg state _ lives]
      simp only [act,progress,running,afterWrite]
      rfl
    refine ⟨next,⟨R,{ec := .requestTimeout}⟩,(run_cons ..).mpr ⟨next,taken,rfl⟩,rfl,?_,rfl⟩
    exact (complete_crashed state.closeSocket .nothing).trans (by simp [reads,Completion.covers])
  | readHead =>
    let next : State env := {state.closeSocket.complete .all with op := .calling request (failed .readError) .won}
    have taken : step sp cfg state (.head false true) = some next := by
      rw [step_alive sp cfg state _ lives]
      simp only [act,Bool.false_eq_true,if_false,progress,running,waitHead]
      rfl
    refine ⟨next,⟨R,{ec := .requestTimeout}⟩,(run_cons ..).mpr ⟨next,taken,rfl⟩,rfl,?_,rfl⟩
    exact (complete_crashed state.closeSocket .all).trans (by simp [State.closeSocket,reads,Completion.covers])
  | readBody header =>
    let next : State env := {state.closeSocket.complete .all with op := .calling request (failed .readError) .won}
    have taken : step sp cfg state (.body false) = some next := by
      rw [step_alive sp cfg state _ lives]
      simp only [act,progress,running,waitBody]
      rfl
    refine ⟨next,⟨R,{ec := .requestTimeout}⟩,(run_cons ..).mpr ⟨next,taken,rfl⟩,rfl,?_,rfl⟩
    exact (complete_crashed state.closeSocket .all).trans (by simp [State.closeSocket,reads,Completion.covers])
  | done outcome =>
    exact ⟨state,⟨R,{ec := .requestTimeout}⟩,rfl,rfl,by simp [lives,reads],by simp only [opReturn,running]⟩
  | threw => exact ⟨state,⟨R,{ec := .requestTimeout}⟩,rfl,rfl,by simp [lives,reads],by simp only [opReturn,running]⟩

end RestRpc.CallProgress
