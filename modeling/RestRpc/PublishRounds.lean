import RestRpc.PubSub

/-! The round of a `publish` over its copy of the connection table, while connections come, go and close, their
writes fail and other publishers go round too. -/
namespace RestRpc.PublishRounds
open Automaton Protocol Md5 Codec Router Connection Server Server.State

def lookedAt (p : Nat) : Obs → Option Nat
  | .published publisher c _ _ => if publisher = p then some c else none
  | .passed publisher c _ => if publisher = p then some c else none
  | _ => none

def looked (p : Nat) (history : List Obs) : List Nat := history.filterMap (lookedAt p)

def sends (p c : Nat) : Obs → Bool
  | .published publisher conn _ _ => publisher == p && conn == c
  | _ => false

def Plain : Obs → Prop
  | .published .. => False
  | .passed .. => False
  | _ => True

structure Change (state next : State) (publishersAfter : List Publisher) : Prop where
  publishers : next.publishers = publishersAfter
  accepted : next.accepted = state.accepted
  table : next.table.Sublist state.table

/-- What an event does to the publishers and to the table, and what it adds to the log. -/
inductive Tour (server : RpcServer) (state next : State) : List Obs → Prop
  | aside (new : List Obs) (plain : ∀ entry ∈ new, Plain entry) (change : Change state next state.publishers) :
      Tour server state next new
  | accepted (publishers : next.publishers = state.publishers) (grown : next.accepted = state.accepted+1)
      (table : next.table = state.accepted::state.table) : Tour server state next []
  | begun (topic : List UInt8) (text : Text) (order : List Nat) (all : order.Perm state.table)
      (change : Change state next (state.publishers ++ [⟨topic,text,order,order,none⟩])) :
      Tour server state next []
  | wrote (p : Nat) (publisher : Publisher) (c : Nat) (remaining : List Nat)
      (held : state.publishers[p]? = some publisher) (coming : publisher.remaining = c::remaining)
      (change : Change state next
        (state.publishers.set p {publisher with remaining := remaining,waiting := some c})) :
      Tour server state next [.published p c publisher.topic
        (response server.cfg (packed .ok publisher.text) (md5Hash32 publisher.topic))]
  | passed (p : Nat) (publisher : Publisher) (c : Nat) (remaining : List Nat)
      (held : state.publishers[p]? = some publisher) (free : publisher.waiting = none)
      (coming : publisher.remaining = c::remaining)
      (change : Change state next (state.publishers.set p {publisher with remaining := remaining})) :
      Tour server state next [.passed p c publisher.topic]
  | written (p : Nat) (publisher : Publisher) (held : state.publishers[p]? = some publisher)
      (change : Change state next (state.publishers.set p {publisher with waiting := none})) :
      Tour server state next []

variable {server : RpcServer} {state next : State}

theorem change_refl (state : State) : Change state state state.publishers := ⟨rfl,rfl,List.Sublist.refl _⟩

theorem change_close (state : State) (c : Nat) (needCb inline : Bool) :
    Change state (state.close c needCb inline) state.publishers := by
  apply close_keeps (fun after => Change state after state.publishers)
  · exact change_refl state
  · cases needCb with
    | true => exact ⟨rfl,rfl,List.filter_sublist⟩
    | false => exact ⟨rfl,rfl,List.Sublist.refl _⟩
  · exact ⟨rfl,rfl,List.Sublist.refl _⟩

theorem change_afterResponse (middle : State) (c : Nat) (ok inline : Bool) (publishers : List Publisher)
    (change : Change state middle publishers) : Change state (afterResponse middle c ok inline) publishers := by
  apply afterResponse_keeps (fun after => Change state after publishers) _ _ _ _ change
  have closed := change_close middle c true inline
  exact ⟨closed.publishers.trans change.publishers,closed.accepted.trans change.accepted,
    closed.table.trans change.table⟩

theorem tour_quiet (change : Change state next state.publishers) (same : next.history = state.history) :
    ∃ new, Tour server state next new ∧ next.history = new ++ state.history :=
  ⟨[],.aside [] (fun _ member => by cases member) change,same⟩

theorem tour_noted (entry : Obs) (plain : Plain entry) (change : Change state next state.publishers)
    (added : next.history = entry::state.history) :
    ∃ new, Tour server state next new ∧ next.history = new ++ state.history :=
  ⟨[entry],.aside [entry] (fun _ member => List.mem_singleton.mp member ▸ plain) change,added⟩

theorem tour_endLoop (c : Nat) : ∃ new, Tour server state ((state.close c true true).setPoint c .ended) new ∧
    ((state.close c true true).setPoint c .ended).history = new ++ state.history :=
  have closed := change_close state c true true
  tour_quiet ⟨closed.publishers,closed.accepted,closed.table⟩ (close_history ..)

theorem tour_publishTo (p : Nat) (publisher : Publisher) (c : Nat) (remaining : List Nat)
    (held : state.publishers[p]? = some publisher) (free : publisher.waiting = none)
    (coming : publisher.remaining = c::remaining) :
    ∃ new, Tour server state (publishTo server state p publisher c remaining) new ∧
      (publishTo server state p publisher c remaining).history = new ++ state.history := by
  unfold publishTo
  extract_lets id left
  split
  · exact ⟨_,.wrote p publisher c remaining held coming ⟨rfl,rfl,List.Sublist.refl _⟩,rfl⟩
  · exact ⟨_,.passed p publisher c remaining held free coming ⟨rfl,rfl,List.Sublist.refl _⟩,rfl⟩

theorem tour_step (event : Event) (taken : step server state event = some next) :
    ∃ new, Tour server state next new ∧ next.history = new ++ state.history := by
  have same := change_refl state
  cases step_cases server state next event taken with
  | accept thread => exact ⟨[],.accepted rfl rfl rfl,rfl⟩
  | head c conn read allocated =>
    unfold Server.afterHead
    split
    · exact tour_endLoop c
    · exact tour_quiet ⟨rfl,rfl,List.Sublist.refl _⟩ rfl
    · exact tour_noted (.subscribed ..) trivial ⟨rfl,rfl,List.Sublist.refl _⟩ rfl
    · exact tour_quiet ⟨rfl,rfl,List.Sublist.refl _⟩ rfl
    · exact tour_quiet ⟨rfl,rfl,List.Sublist.refl _⟩ rfl
    · exact tour_noted (.routed ..) trivial ⟨rfl,rfl,List.Sublist.refl _⟩ rfl
  | body c conn header read =>
    cases read with
    | none => exact tour_endLoop c
    | some octets => exact tour_noted (.routed ..) trivial ⟨rfl,rfl,List.Sublist.refl _⟩ rfl
  | construct => exact tour_noted (.made ..) trivial ⟨rfl,rfl,List.Sublist.refl _⟩ rfl
  | constructElsewhere => exact tour_noted (.made ..) trivial ⟨rfl,rfl,List.Sublist.refl _⟩ rfl
  | suspend => exact tour_quiet ⟨rfl,rfl,List.Sublist.refl _⟩ rfl
  | resume => exact tour_quiet ⟨rfl,rfl,List.Sublist.refl _⟩ rfl
  | finish c conn request key ret =>
    unfold afterRoute
    extract_lets context routed
    split
    · exact tour_noted (.finished ..) trivial ⟨rfl,rfl,List.Sublist.refl _⟩ rfl
    · refine ⟨[_,_],.aside _ (fun entry member => ?_) ⟨rfl,rfl,List.Sublist.refl _⟩,rfl⟩
      simp only [List.mem_cons,List.not_mem_nil,or_false] at member
      rcases member with rfl | rfl <;> trivial
  | written c conn ok =>
    cases ok with
    | true => exact tour_quiet ⟨rfl,rfl,List.Sublist.refl _⟩ rfl
    | false => exact tour_endLoop c
  | copy => exact tour_quiet ⟨rfl,rfl,List.Sublist.refl _⟩ rfl
  | move => exact tour_quiet ⟨rfl,rfl,List.Sublist.refl _⟩ rfl
  | respond k context payload =>
    unfold respond
    split
    · exact tour_quiet same rfl
    · split
      · exact tour_quiet same rfl
      · exact tour_noted (.sent ..) trivial ⟨rfl,rfl,List.Sublist.refl _⟩ rfl
  | responded c ok inline =>
    exact tour_quiet (change_afterResponse _ c ok inline _ ⟨rfl,rfl,List.Sublist.refl _⟩) (afterResponse_history ..)
  | publish topic text order all => exact ⟨[],.begun topic text order all ⟨rfl,rfl,List.Sublist.refl _⟩,rfl⟩
  | publishNext p publisher c remaining held free coming =>
    exact tour_publishTo p publisher c remaining held free coming
  | publishWritten p publisher c ok inline held =>
    exact ⟨[],.written p publisher held (change_afterResponse _ c ok inline _ ⟨rfl,rfl,List.Sublist.refl _⟩),
      afterResponse_history ..⟩
  | closePosted c needCb =>
    cases needCb with
    | true => exact tour_quiet ⟨rfl,rfl,List.filter_sublist⟩ rfl
    | false => exact tour_quiet ⟨rfl,rfl,List.Sublist.refl _⟩ rfl
  | checkTimeout c inline =>
    have closed := change_close state c false inline
    exact tour_quiet ⟨closed.publishers,closed.accepted,List.filter_sublist.trans closed.table⟩ (close_history ..)
  | stop => exact tour_quiet ⟨rfl,rfl,List.nil_sublist _⟩ rfl

/-- What a publisher has looked at, with what is left to it, is its copy of the table, in which no connection
stands twice. It sends the same frame to all, and it waits for the last one it sent. -/
structure Rounds (server : RpcServer) (state : State) : Prop where
  distinct : state.table.Nodup
  listed : ∀ c ∈ state.table, c < state.accepted
  single : ∀ (p : Nat) (publisher : Publisher), state.publishers[p]? = some publisher → publisher.conns.Nodup
  round : ∀ (p : Nat) (publisher : Publisher), state.publishers[p]? = some publisher →
    (looked p state.history).reverse ++ publisher.remaining = publisher.conns
  waits : ∀ (p : Nat) (publisher : Publisher) (c : Nat),
    state.publishers[p]? = some publisher → publisher.waiting = some c → (looked p state.history).head? = some c
  fresh : ∀ p : Nat, state.publishers.length ≤ p → looked p state.history = []
  message : ∀ (p c : Nat) (topic frame : List UInt8), .published p c topic frame ∈ state.history →
    ∃ publisher, state.publishers[p]? = some publisher ∧ topic = publisher.topic ∧
      frame = response server.cfg (packed .ok publisher.text) (md5Hash32 publisher.topic)

theorem lookedAt_plain (p : Nat) (entry : Obs) (plain : Plain entry) : lookedAt p entry = none := by
  cases entry with
  | published => cases plain
  | passed => cases plain
  | _ => rfl

theorem looked_plain (p : Nat) (new earlier : List Obs) (plain : ∀ entry ∈ new, Plain entry) :
    looked p (new ++ earlier) = looked p earlier := by
  have none := List.filterMap_eq_nil_iff.mpr fun entry member => lookedAt_plain p entry (plain entry member)
  rw [looked,List.filterMap_append,none]
  rfl

theorem Rounds.table (rounds : Rounds server state) {publishers : List Publisher}
    (change : Change state next publishers) :
    next.table.Nodup ∧ ∀ c ∈ next.table, c < next.accepted := by
  refine ⟨rounds.distinct.sublist change.table,fun c member => ?_⟩
  rw [change.accepted]
  exact rounds.listed c (change.table.subset member)

theorem Rounds.keep (rounds : Rounds server state) (publishers : next.publishers = state.publishers)
    (table : next.table.Nodup ∧ ∀ c ∈ next.table, c < next.accepted)
    (same : ∀ p, looked p next.history = looked p state.history)
    (old : ∀ p c topic frame, .published p c topic frame ∈ next.history → .published p c topic frame ∈ state.history) :
    Rounds server next where
  distinct := table.1
  listed := table.2
  single p publisher held := rounds.single p publisher (by rwa [publishers] at held)
  round p publisher held := by rw [same]; exact rounds.round p publisher (by rwa [publishers] at held)
  waits p publisher c held := by rw [same]; exact rounds.waits p publisher c (by rwa [publishers] at held)
  fresh p bound := by rw [same]; exact rounds.fresh p (by rwa [publishers] at bound)
  message p c topic frame member := by
    rw [publishers]
    exact rounds.message p c topic frame (old p c topic frame member)

theorem Rounds.goOn (rounds : Rounds server state) (p : Nat) (before after : Publisher)
    (held : state.publishers[p]? = some before) (change : Change state next (state.publishers.set p after))
    (conns : after.conns = before.conns) (topic : after.topic = before.topic) (text : after.text = before.text)
    (others : ∀ q, q ≠ p → looked q next.history = looked q state.history)
    (round : (looked p next.history).reverse ++ after.remaining = (looked p state.history).reverse ++ before.remaining)
    (waits : ∀ c, after.waiting = some c → (looked p next.history).head? = some c)
    (message : ∀ q c topic frame, .published q c topic frame ∈ next.history →
      .published q c topic frame ∈ state.history ∨ q = p ∧ topic = before.topic ∧
        frame = response server.cfg (packed .ok before.text) (md5Hash32 before.topic)) :
    Rounds server next := by
  have inside := (List.getElem?_eq_some_iff.mp held).1
  have here : next.publishers[p]? = some after := by rw [change.publishers,List.getElem?_set_self inside]
  have elsewhere (q : Nat) (other : q ≠ p) : next.publishers[q]? = state.publishers[q]? := by
    rw [change.publishers,List.getElem?_set_ne (Ne.symm other)]
  have table := rounds.table change
  refine ⟨table.1,table.2,fun q publisher now => ?_,fun q publisher now => ?_,fun q publisher c now => ?_,
    fun q bound => ?_,fun q c heading frame member => ?_⟩
  · by_cases same : q = p
    · subst same
      cases here.symm.trans now
      rw [conns]
      exact rounds.single q before held
    · exact rounds.single q publisher ((elsewhere q same).symm.trans now)
  · by_cases same : q = p
    · subst same
      cases here.symm.trans now
      rw [round,conns]
      exact rounds.round q before held
    · rw [others q same]
      exact rounds.round q publisher ((elsewhere q same).symm.trans now)
  · by_cases same : q = p
    · subst same
      cases here.symm.trans now
      exact waits c
    · rw [others q same]
      exact rounds.waits q publisher c ((elsewhere q same).symm.trans now)
  · rw [change.publishers,List.length_set] at bound
    rw [others q (by omega)]
    exact rounds.fresh q bound
  · rcases message q c heading frame member with old | ⟨rfl,same,written⟩
    · obtain ⟨publisher,was,same,written⟩ := rounds.message q c heading frame old
      by_cases at_ : q = p
      · subst at_
        cases held.symm.trans was
        exact ⟨after,here,same.trans topic.symm,by rw [written,topic,text]⟩
      · exact ⟨publisher,(elsewhere q at_).trans was,same,written⟩
    · exact ⟨after,here,same.trans topic.symm,by rw [written,topic,text]⟩

theorem Rounds.begin (rounds : Rounds server state) (topic : List UInt8) (text : Text) (order : List Nat)
    (all : order.Perm state.table)
    (change : Change state next (state.publishers ++ [⟨topic,text,order,order,none⟩]))
    (history : next.history = state.history) : Rounds server next := by
  have table := rounds.table change
  have held (p : Nat) (publisher : Publisher) (now : next.publishers[p]? = some publisher) :
      state.publishers[p]? = some publisher ∨
        p = state.publishers.length ∧ publisher = ⟨topic,text,order,order,none⟩ := by
    rw [change.publishers] at now
    rcases Nat.lt_trichotomy p state.publishers.length with less | same | more
    · exact .inl (by rwa [List.getElem?_append_left less] at now)
    · subst same
      exact .inr ⟨rfl,by simpa [eq_comm] using now⟩
    · rw [List.getElem?_eq_none (by simp; omega)] at now
      cases now
  have unseen := rounds.fresh state.publishers.length (Nat.le_refl _)
  refine ⟨table.1,table.2,fun p publisher now => ?_,fun p publisher now => ?_,fun p publisher c now waiting => ?_,
    fun p bound => ?_,fun p c heading frame member => ?_⟩
  · rcases held p publisher now with was | ⟨rfl,rfl⟩
    · exact rounds.single p publisher was
    · exact (all.nodup_iff).mpr rounds.distinct
  · rw [history]
    rcases held p publisher now with was | ⟨rfl,rfl⟩
    · exact rounds.round p publisher was
    · rw [unseen]
      rfl
  · rw [history]
    rcases held p publisher now with was | ⟨rfl,rfl⟩
    · exact rounds.waits p publisher c was waiting
    · cases waiting
  · rw [history]
    rw [change.publishers,List.length_append] at bound
    exact rounds.fresh p (by omega)
  · rw [history] at member
    obtain ⟨publisher,was,rest⟩ := rounds.message p c heading frame member
    have inside := (List.getElem?_eq_some_iff.mp was).1
    exact ⟨publisher,by rwa [change.publishers,List.getElem?_append_left inside],rest⟩

theorem rounds_tour (rounds : Rounds server state) (new : List Obs) (tour : Tour server state next new)
    (added : next.history = new ++ state.history) : Rounds server next := by
  cases tour with
  | aside _ plain change =>
    refine rounds.keep change.publishers (rounds.table change) (fun p => ?_) fun p c topic frame member => ?_
    · rw [added,looked_plain p new _ plain]
    · rw [added] at member
      exact (List.mem_append.mp member).elim (fun fresh => (plain _ fresh).elim) id
  | accepted publishers grown table =>
    refine rounds.keep publishers ⟨?_,fun c member => ?_⟩ (fun p => by rw [added]; rfl) fun p c topic frame member => ?_
    · rw [table]
      refine List.nodup_cons.mpr ⟨fun member => ?_,rounds.distinct⟩
      exact Nat.lt_irrefl _ (rounds.listed _ member)
    · rw [table] at member
      rcases List.mem_cons.mp member with rfl | member
      · omega
      · have := rounds.listed c member
        omega
    · rwa [added] at member
  | begun topic text order all change => exact rounds.begin topic text order all change added
  | wrote p publisher c remaining held coming change =>
    refine rounds.goOn p publisher _ held change rfl rfl rfl (fun q other => ?_) ?_ ?_ fun q d heading frame member => ?_
    · simp [added,looked,lookedAt,Ne.symm other]
    · simp [added,looked,lookedAt,coming]
    · intro d same
      cases same
      simp [added,looked,lookedAt]
    · rw [added] at member
      rcases List.mem_cons.mp member with same | old
      · cases same
        exact .inr ⟨rfl,rfl,rfl⟩
      · exact .inl old
  | passed p publisher c remaining held free coming change =>
    refine rounds.goOn p publisher _ held change rfl rfl rfl (fun q other => ?_) ?_ ?_ fun q d heading frame member => ?_
    · simp [added,looked,lookedAt,Ne.symm other]
    · simp [added,looked,lookedAt,coming]
    · intro d same
      cases free.symm.trans same
    · rw [added] at member
      rcases List.mem_cons.mp member with same | old
      · cases same
      · exact .inl old
  | written p publisher held change =>
    have history : next.history = state.history := added
    refine rounds.goOn p publisher _ held change rfl rfl rfl (fun q _ => by rw [history]) (by rw [history]) ?_
      fun q d heading frame member => .inl (by rwa [history] at member)
    intro c same
    cases same

theorem rounds_step (server : RpcServer) (state : State) (event : Event) (next : State)
    (rounds : Rounds server state) (taken : step server state event = some next) : Rounds server next := by
  obtain ⟨new,tour,added⟩ := tour_step event taken
  exact rounds_tour rounds new tour added

theorem rounds_initial (server : RpcServer) : Rounds server {} where
  distinct := List.nodup_nil
  listed _ member := by cases member
  single _ _ held := by cases held
  round _ _ held := by cases held
  waits _ _ _ held := by cases held
  fresh _ _ := rfl
  message _ _ _ _ member := by cases member

theorem sends_le_looked (p c : Nat) (history : List Obs) :
    history.countP (sends p c) ≤ (looked p history).count c := by
  rw [looked,List.count_filterMap]
  refine List.countP_mono_left fun entry _ sent => ?_
  cases entry with
  | published publisher conn topic frame => simpa [sends,lookedAt] using sent
  | _ => cases sent

/-- In every run, a publisher goes once over its copy of the table in order, sends one and the same message, to no
connection twice and to the next one only when the last write has ended, and is held up by nothing else. -/
theorem publish_in_turn (server : RpcServer) (events : List Event) (final : State) (p : Nat) (publisher : Publisher)
    (ran : run (step server) {} events = some final) (held : final.publishers[p]? = some publisher) :
    (looked p final.history).reverse ++ publisher.remaining = publisher.conns ∧
      (∀ c topic frame, .published p c topic frame ∈ final.history → topic = publisher.topic ∧
        frame = response server.cfg (packed .ok publisher.text) (md5Hash32 publisher.topic)) ∧
      (∀ c, final.history.countP (sends p c) ≤ 1) ∧
      (∀ c, publisher.waiting = some c → (looked p final.history).head? = some c) ∧
      (publisher.waiting = none ∧ publisher.remaining = [] ∨
        ∃ event next, (event = .publishNext p ∨ event = .publishWritten p true true) ∧
          step server final event = some next) := by
  have rounds := run_invariant (Rounds server) (rounds_step server) events {} final (rounds_initial server) ran
  have round := rounds.round p publisher held
  refine ⟨round,fun c topic frame member => ?_,fun c => ?_,fun c => rounds.waits p publisher c held,?_⟩
  · obtain ⟨other,now,same,written⟩ := rounds.message p c topic frame member
    cases held.symm.trans now
    exact ⟨same,written⟩
  · have whole := rounds.single p publisher held
    rw [← round] at whole
    have once := List.nodup_iff_count.mp (List.nodup_append.mp whole).1 c
    rw [List.count_reverse] at once
    exact Nat.le_trans (sends_le_looked p c final.history) once
  · cases waiting : publisher.waiting with
    | some c => exact .inr ⟨.publishWritten p true true,_,.inr rfl,by simp [step,held,waiting]; rfl⟩
    | none =>
      cases coming : publisher.remaining with
      | nil => exact .inl ⟨rfl,rfl⟩
      | cons c remaining => exact .inr ⟨.publishNext p,_,.inl rfl,by simp [step,held,waiting,coming]; rfl⟩

theorem publish_in_turn_closing :
    let server : RpcServer := ⟨⟨.little,false⟩,fun _ => []⟩
    let topic := ascii "topic1"
    ∃ final publisher, run (step server) {}
        [.accept 0,.accept 1,PubSub.subscribing server topic,.publish topic Text.empty [0,1],.publishNext 0,
          .checkTimeout 1 false,.publishWritten 0 true true] = some final ∧
      final.publishers[0]? = some publisher ∧
      (looked 0 final.history).reverse ++ publisher.remaining = publisher.conns ∧
      publisher.conns = [0,1] ∧ final.table = [0] ∧ final.history.countP (sends 0 0) = 1 := by
  intro server topic
  have reached : (run (step server) {}
      [.accept 0,.accept 1,PubSub.subscribing server topic,.publish topic Text.empty [0,1],.publishNext 0,
        .checkTimeout 1 false,.publishWritten 0 true true]).map
      (fun final => (final.publishers,final.table,final.history.countP (sends 0 0))) =
      some ([⟨topic,Text.empty,[0,1],[1],none⟩],[0],1) := by decide +kernel
  obtain ⟨final,ran,last⟩ := Option.map_eq_some_iff.mp reached
  obtain ⟨publishers,table,sent⟩ : final.publishers = [⟨topic,Text.empty,[0,1],[1],none⟩] ∧ final.table = [0] ∧
      final.history.countP (sends 0 0) = 1 := by simpa using last
  have held : final.publishers[0]? = some ⟨topic,Text.empty,[0,1],[1],none⟩ := by rw [publishers]; rfl
  exact ⟨final,_,ran,held,(publish_in_turn server _ final 0 _ ran held).1,rfl,table,sent⟩

end RestRpc.PublishRounds
