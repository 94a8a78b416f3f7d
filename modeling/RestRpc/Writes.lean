import Mathlib.Data.List.Flatten
import Mathlib.Data.List.Infix
import Mathlib.Data.List.Nodup

/-! Asynchronous writes on one byte stream, each a sequence of partial writes that may alternate
with those of others. Every octet on the stream keeps the number of the write that it is from. -/
namespace RestRpc.Writes

variable {Octet : Type}

structure Write (Octet : Type) where
  frame : List Octet
  offset : Nat := 0
  deriving DecidableEq,Repr

structure Wire (Octet : Type) where
  writes : List (Write Octet) := []
  sent : List (Nat × Octet) := []
  deriving DecidableEq,Repr

def tagged (k : Nat) (octets : List Octet) : List (Nat × Octet) := octets.map fun octet => (k,octet)

namespace Wire

def start (wire : Wire Octet) (frame : List Octet) : Wire Octet :=
  {wire with writes := wire.writes ++ [⟨frame,0⟩]}

def advance (wire : Wire Octet) (k : Nat) (write : Write Octet) (n : Nat) : Wire Octet where
  writes := wire.writes.set k {write with offset := write.offset+n}
  sent := wire.sent ++ tagged k ((write.frame.drop write.offset).take n)

def frame (wire : Wire Octet) (k : Nat) : List Octet := (wire.writes[k]?).elim [] (·.frame)

def offset (wire : Wire Octet) (k : Nat) : Nat := (wire.writes[k]?).elim 0 (·.offset)

def part (wire : Wire Octet) (k : Nat) : List Octet := (wire.frame k).take (wire.offset k)

/-- Complete frames, and then at most the beginning of one. -/
def Whole (wire : Wire Octet) : Prop :=
  ∃ (order : List Nat) (last : List (Nat × Octet)),
    wire.sent = (order.flatMap fun k => tagged k (wire.frame k)) ++ last ∧
      ∃ k, last <+: tagged k (wire.frame k)

end Wire

def Complete (write : Write Octet) : Prop := write.offset = write.frame.length

def Sequential : List (Write Octet) → Prop
  | [] => True
  | write::writes => Complete write ∧ Sequential writes ∨ ∀ other ∈ writes, other.offset = 0

def inOrder (first : Nat) (writes : List (Write Octet)) : List (Nat × Octet) :=
  (writes.zipIdx first).flatMap fun (write,k) => tagged k (write.frame.take write.offset)

theorem inOrder_append (first : Nat) (before after : List (Write Octet)) :
    inOrder first (before ++ after) = inOrder first before ++ inOrder (first + before.length) after := by
  simp [inOrder,List.zipIdx_append]

theorem inOrder_zero (first : Nat) (writes : List (Write Octet)) (unsent : ∀ write ∈ writes, write.offset = 0) :
    inOrder first writes = [] := by
  simp only [inOrder,List.flatMap_eq_nil_iff]
  rintro ⟨write,k⟩ member
  have held := List.fst_mem_of_mem_zipIdx member
  simp [tagged,unsent write held]

theorem inOrder_whole (first : Nat) (writes : List (Write Octet)) (sequential : Sequential writes)
    (frame : Nat → List Octet) (frames : ∀ k write, writes[k]? = some write → frame (first+k) = write.frame) :
    ∃ (order : List Nat) (last : List (Nat × Octet)),
      inOrder first writes = (order.flatMap fun k => tagged k (frame k)) ++ last ∧
        ∃ k, last <+: tagged k (frame k) := by
  induction writes generalizing first with
  | nil => exact ⟨[],[],rfl,0,List.nil_prefix⟩
  | cons write writes ih =>
    have own : frame first = write.frame := by simpa using frames 0 write rfl
    have split : inOrder first (write::writes) =
        tagged first (write.frame.take write.offset) ++ inOrder (first+1) writes := by
      simp [inOrder,List.zipIdx_cons]
    rcases sequential with ⟨complete,rest⟩ | unsent
    · obtain ⟨order,last,sent,k,partly⟩ := ih (first+1) rest fun k other held => by
        rw [Nat.add_assoc,Nat.add_comm 1 k]
        exact frames (k+1) other (by simpa using held)
      refine ⟨first::order,last,?_,k,partly⟩
      have whole : write.frame.take write.offset = write.frame := by rw [complete,List.take_length]
      rw [split,sent,whole]
      simp [own]
    · refine ⟨[],tagged first (write.frame.take write.offset),?_,first,?_⟩
      · rw [split,inOrder_zero _ _ unsent]
        simp
      · rw [own]
        exact (List.take_prefix _ _).map _

theorem whole_of_sequential (wire : Wire Octet) (sequential : Sequential wire.writes)
    (sent : wire.sent = inOrder 0 wire.writes) : wire.Whole := by
  obtain ⟨order,last,same,partly⟩ := inOrder_whole 0 wire.writes sequential wire.frame fun k write held => by
    simp [Wire.frame,held]
  exact ⟨order,last,sent.trans same,partly⟩

def Ready (writes : List (Write Octet)) : Prop :=
  writes = [] ∨ ∃ before last, writes = before ++ [last] ∧ ∀ write ∈ before, Complete write

theorem sequential_start (writes : List (Write Octet)) (frame : List Octet) (sequential : Sequential writes) :
    Sequential (writes ++ [⟨frame,0⟩]) := by
  induction writes with
  | nil => exact .inr fun _ member => by cases member
  | cons write writes ih =>
    rcases sequential with ⟨complete,rest⟩ | unsent
    · exact .inl ⟨complete,ih rest⟩
    · right
      intro other member
      rcases List.mem_append.mp member with old | new
      · exact unsent other old
      · rw [List.mem_singleton.mp new]

theorem sequential_ready (before : List (Write Octet)) (last : Write Octet)
    (complete : ∀ write ∈ before, Complete write) : Sequential (before ++ [last]) := by
  induction before with
  | nil => exact .inr fun _ member => by cases member
  | cons write before ih =>
    exact .inl ⟨complete write List.mem_cons_self,ih fun other member =>
      complete other (List.mem_cons_of_mem _ member)⟩

/-- The writes of a wire on which none starts before the others are complete. -/
structure Serial (wire : Wire Octet) : Prop where
  sequential : Sequential wire.writes
  sent : wire.sent = inOrder 0 wire.writes

theorem Serial.start {wire : Wire Octet} (serial : Serial wire) (frame : List Octet) :
    Serial (wire.start frame) where
  sequential := sequential_start wire.writes frame serial.sequential
  sent := by
    rw [Wire.start,inOrder_append,serial.sent]
    simp [inOrder,tagged]

theorem Serial.advance {wire : Wire Octet} (serial : Serial wire) (ready : Ready wire.writes) (k n : Nat)
    (write : Write Octet) (held : wire.writes[k]? = some write) (more : 0 < n)
    (fits : write.offset + n ≤ write.frame.length) :
    Serial (wire.advance k write n) ∧ Ready (wire.advance k write n).writes := by
  rcases ready with empty | ⟨before,last,split,complete⟩
  · simp [empty] at held
  · rw [split] at held
    rcases Nat.lt_or_ge k before.length with early | late
    · rw [List.getElem?_append_left early] at held
      have full := complete write (List.mem_of_getElem? held)
      rw [Complete] at full
      omega
    · rw [List.getElem?_append_right late,List.getElem?_singleton] at held
      split at held
      · obtain rfl : last = write := Option.some.inj held
        obtain rfl : k = before.length := by omega
        have moved : (wire.advance before.length last n).writes =
            before ++ [{last with offset := last.offset+n}] := by
          simp [Wire.advance,split]
        refine ⟨⟨?_,?_⟩,.inr ⟨before,_,moved,complete⟩⟩
        · rw [moved]
          exact sequential_ready before _ complete
        · rw [moved,inOrder_append,Wire.advance,serial.sent,split,inOrder_append]
          simp [inOrder,tagged,List.take_add]
      · cases held

/-- Writes that are sent one at a time, in an order of their own, whenever they were started. -/
structure InTurn (wire : Wire Octet) (order : List Nat) : Prop where
  distinct : order.Nodup
  begun : ∀ k, k ∈ order ↔ 0 < wire.offset k
  complete : ∀ k ∈ order.dropLast, wire.offset k = (wire.frame k).length
  sent : wire.sent = order.flatMap fun k => tagged k (wire.part k)

theorem inTurn_initial : InTurn ({} : Wire Octet) [] where
  distinct := List.nodup_nil
  begun k := by simp [Wire.offset]
  complete k member := by cases member
  sent := rfl

theorem InTurn.congr {wire next : Wire Octet} {order : List Nat} (turn : InTurn wire order)
    (frame : ∀ k ∈ order, next.frame k = wire.frame k) (offset : ∀ k, next.offset k = wire.offset k)
    (sent : next.sent = wire.sent) : InTurn next order where
  distinct := turn.distinct
  begun k := by rw [offset,turn.begun]
  complete k member := by
    rw [offset,frame k (List.mem_of_mem_dropLast member),turn.complete k member]
  sent := by
    rw [sent,turn.sent]
    refine List.flatMap_congr fun k member => ?_
    rw [Wire.part,Wire.part,frame k member,offset]

theorem offset_start (wire : Wire Octet) (frame : List Octet) (k : Nat) :
    (wire.start frame).offset k = wire.offset k := by
  simp only [Wire.offset,Wire.start]
  rcases Nat.lt_or_ge k wire.writes.length with old | new
  · rw [List.getElem?_append_left old]
  · rw [List.getElem?_eq_none new,List.getElem?_append_right new,List.getElem?_singleton]
    split
    · rfl
    · rfl

theorem frame_start (wire : Wire Octet) (frame : List Octet) (k : Nat) (old : k < wire.writes.length) :
    (wire.start frame).frame k = wire.frame k := by
  rw [Wire.frame,Wire.start,List.getElem?_append_left old,Wire.frame]

theorem InTurn.listed {wire : Wire Octet} {order : List Nat} (turn : InTurn wire order) (k : Nat)
    (member : k ∈ order) : k < wire.writes.length := by
  apply Nat.lt_of_not_le
  intro outside
  have begun := (turn.begun k).mp member
  simp [Wire.offset,List.getElem?_eq_none outside] at begun

theorem InTurn.start {wire : Wire Octet} {order : List Nat} (turn : InTurn wire order) (frame : List Octet) :
    InTurn (wire.start frame) order :=
  turn.congr (fun k member => frame_start wire frame k (turn.listed k member)) (offset_start wire frame) rfl

theorem frame_advance (wire : Wire Octet) (j k n : Nat) (write : Write Octet)
    (held : wire.writes[k]? = some write) : (wire.advance k write n).frame j = wire.frame j := by
  have bound : k < wire.writes.length := (List.getElem?_eq_some_iff.mp held).1
  by_cases same : k = j
  · subst same
    simp [Wire.frame,Wire.advance,bound,(List.getElem_eq_iff bound).mpr held]
  · simp [Wire.frame,Wire.advance,same]

theorem offset_advance (wire : Wire Octet) (j k n : Nat) (write : Write Octet)
    (held : wire.writes[k]? = some write) :
    (wire.advance k write n).offset j = if k = j then write.offset + n else wire.offset j := by
  have bound : k < wire.writes.length := (List.getElem?_eq_some_iff.mp held).1
  by_cases same : k = j
  · subst same
    simp [Wire.offset,Wire.advance,bound]
  · simp [Wire.offset,Wire.advance,same]

theorem InTurn.advance {wire : Wire Octet} {order : List Nat} (turn : InTurn wire order) (k n : Nat)
    (write : Write Octet) (held : wire.writes[k]? = some write) (more : 0 < n)
    (fits : write.offset + n ≤ write.frame.length)
    (others : ∀ j ≠ k, wire.offset j = 0 ∨ wire.offset j = (wire.frame j).length) :
    InTurn (wire.advance k write n) (if wire.offset k = 0 then order ++ [k] else order) := by
  have frames (j : Nat) := frame_advance wire j k n write held
  have offsets (j : Nat) := offset_advance wire j k n write held
  have own : wire.offset k = write.offset := by simp [Wire.offset,held]
  have frame : wire.frame k = write.frame := by simp [Wire.frame,held]
  have others_part (j : Nat) (differs : j ≠ k) : (wire.advance k write n).part j = wire.part j := by
    rw [Wire.part,frames,offsets,if_neg (Ne.symm differs),Wire.part]
  have own_part : (wire.advance k write n).part k =
      wire.part k ++ (write.frame.drop write.offset).take n := by
    rw [Wire.part,frames,offsets,if_pos rfl,Wire.part,own,frame,List.take_add]
  by_cases first : wire.offset k = 0
  · rw [if_pos first]
    have absent : k ∉ order := fun member => absurd ((turn.begun k).mp member) (by omega)
    constructor
    case distinct =>
      exact List.nodup_append.mpr ⟨turn.distinct,List.nodup_singleton k,fun j member i single same =>
        absent (by rwa [← List.mem_singleton.mp single,← same])⟩
    case begun =>
      intro j
      rw [List.mem_append,List.mem_singleton,offsets,turn.begun]
      split
      · omega
      · rename_i differs
        constructor
        · exact fun either => either.resolve_right (Ne.symm differs)
        · exact .inl
    case complete =>
      intro j member
      rw [List.dropLast_concat] at member
      have differs : j ≠ k := fun same => absent (same ▸ member)
      rw [offsets,if_neg (Ne.symm differs),frames]
      exact (others j differs).resolve_left (Nat.ne_of_gt ((turn.begun j).mp member))
    case sent =>
      have nothing : wire.part k = [] := by rw [Wire.part,first,List.take_zero]
      rw [Wire.advance,turn.sent,List.flatMap_append,List.flatMap_singleton]
      refine congrArg₂ (· ++ ·) (List.flatMap_congr fun j member => ?_) ?_
      · rw [← others_part j fun same => absent (same ▸ member)]
        rfl
      · exact congrArg (tagged k) (by rw [← List.nil_append (List.take n _),← nothing,← own_part]; rfl)
  · rw [if_neg first]
    have member : k ∈ order := (turn.begun k).mpr (by omega)
    have split := List.dropLast_append_getLast (List.ne_nil_of_mem member)
    have absent : k ∉ order.dropLast := by
      intro early
      have full := turn.complete k early
      rw [own,frame] at full
      omega
    have last : order.getLast (List.ne_nil_of_mem member) = k := by
      rw [← split] at member
      exact (List.mem_singleton.mp ((List.mem_append.mp member).resolve_left absent)).symm
    rw [last] at split
    constructor
    case distinct => exact turn.distinct
    case begun =>
      intro j
      rw [offsets,turn.begun]
      split
      · rename_i same
        subst same
        omega
      · exact Iff.rfl
    case complete =>
      intro j early
      have differs : ¬k = j := fun same => absent (same ▸ early)
      rw [offsets,if_neg differs,frames]
      exact turn.complete j early
    case sent =>
      rw [Wire.advance,turn.sent,← split,List.flatMap_append,List.flatMap_append,List.flatMap_singleton,
        List.flatMap_singleton,List.append_assoc]
      refine congrArg₂ (· ++ ·) (List.flatMap_congr fun j early => ?_) ?_
      · rw [← others_part j fun same => absent (same ▸ early)]
        rfl
      · rw [tagged,tagged,← List.map_append,← own_part]
        rfl

@[simp] theorem length_tagged (k : Nat) (octets : List Octet) : (tagged k octets).length = octets.length := by
  simp [tagged]

theorem take_tagged (k n : Nat) (octets : List Octet) : (tagged k octets).take n = tagged k (octets.take n) := by
  simp [tagged,List.map_take]

/-- What a reader finds behind the frames it has read is from the next write. -/
theorem InTurn.front {wire : Wire Octet} {order : List Nat} (turn : InTurn wire order) (read rest : List Nat)
    (k n : Nat) (split : order = read ++ k::rest) (small : n ≤ (wire.frame k).length)
    (enough : (read.flatMap wire.frame).length + n ≤ wire.sent.length) :
    (wire.sent.drop (read.flatMap wire.frame).length).take n = tagged k ((wire.frame k).take n) := by
  have early (j : Nat) (member : j ∈ read) : wire.part j = wire.frame j := by
    have complete := turn.complete j <| by
      rw [split,List.dropLast_append_of_ne_nil (List.cons_ne_nil k rest)]
      exact List.mem_append_left _ member
    rw [Wire.part,complete,List.take_length]
  have sent : wire.sent = (read.flatMap fun j => tagged j (wire.frame j)) ++
      (tagged k (wire.part k) ++ rest.flatMap fun j => tagged j (wire.part j)) := by
    rw [turn.sent,split,List.flatMap_append,List.flatMap_cons]
    refine congrArg (· ++ _) (List.flatMap_congr fun j member => ?_)
    rw [early j member]
  have length : (read.flatMap wire.frame).length = (read.flatMap fun j => tagged j (wire.frame j)).length := by
    simp [List.length_flatMap]
  rw [sent,length,List.length_append,List.length_append] at enough
  rw [sent,length,List.drop_left]
  have reached : n ≤ (wire.part k).length := by
    rcases Nat.lt_or_ge (wire.offset k) (wire.frame k).length with partly | whole
    · have last : rest = [] := by
        apply Classical.not_not.mp
        intro others
        have complete := turn.complete k <| by
          rw [split,List.dropLast_append_of_ne_nil (List.cons_ne_nil k rest),List.dropLast_cons_of_ne_nil others]
          simp
        omega
      subst last
      simp only [List.flatMap_nil,List.length_nil,length_tagged] at enough
      omega
    · rw [Wire.part,List.take_of_length_le whole]
      exact small
  have inside : n ≤ wire.offset k := by
    rw [Wire.part,List.length_take] at reached
    omega
  rw [List.take_append_of_le_length (by rwa [length_tagged]),take_tagged,Wire.part,List.take_take,
    Nat.min_eq_left inside]

theorem InTurn.length_sent {wire : Wire Octet} {order : List Nat} (turn : InTurn wire order) :
    wire.sent.length ≤ (order.flatMap wire.frame).length := by
  rw [turn.sent]
  clear turn
  induction order with
  | nil => exact Nat.le_refl _
  | cons k order ih =>
    have part : (wire.part k).length ≤ (wire.frame k).length := by
      rw [Wire.part,List.length_take]
      exact Nat.min_le_right _ _
    rw [List.flatMap_cons,List.flatMap_cons,List.length_append,List.length_append,length_tagged]
    omega

def count (wire : Wire Octet) (k : Nat) : Nat := wire.sent.countP fun entry => entry.1 == k

/-- Each write has sent as many octets as its offset says. -/
def Counted (wire : Wire Octet) : Prop := ∀ k, count wire k = (wire.writes[k]?).elim 0 (·.offset)

theorem countP_tagged (j k : Nat) (octets : List Octet) :
    (tagged j octets).countP (fun entry => entry.1 == k) = if j = k then octets.length else 0 := by
  simp only [tagged,List.countP_map,Function.comp_def]
  split
  · rename_i same
    simp [same]
  · rename_i differs
    simp [differs]

theorem Counted.start {wire : Wire Octet} (counted : Counted wire) (frame : List Octet) :
    Counted (wire.start frame) := by
  intro k
  rw [show count (wire.start frame) k = count wire k from rfl,counted k,Wire.start]
  rcases Nat.lt_or_ge k wire.writes.length with old | new
  · rw [List.getElem?_append_left old]
  · rw [List.getElem?_eq_none new,List.getElem?_append_right new,List.getElem?_singleton]
    split
    · rfl
    · rfl

theorem Counted.advance {wire : Wire Octet} (counted : Counted wire) (k n : Nat) (write : Write Octet)
    (held : wire.writes[k]? = some write) (fits : write.offset + n ≤ write.frame.length) :
    Counted (wire.advance k write n) := by
  intro j
  have before := counted j
  have bound : k < wire.writes.length := (List.getElem?_eq_some_iff.mp held).1
  have more : ((write.frame.drop write.offset).take n).length = n := by
    simp only [List.length_take,List.length_drop]
    omega
  have all : count (wire.advance k write n) j = count wire j + if k = j then n else 0 := by
    rw [count,Wire.advance,List.countP_append,countP_tagged,more]
    rfl
  rw [all,before]
  by_cases same : k = j
  · subst same
    have own : wire.writes[k] = write := List.getElem_eq_iff bound |>.mpr held
    simp [Wire.advance,bound,own]
  · simp [Wire.advance,same]

/-- Two writes that are both partly sent are not whole frames one after the other. -/
theorem Counted.not_whole {wire : Wire Octet} (counted : Counted wire) (j k : Nat) (first second : Write Octet)
    (differ : j ≠ k) (held : wire.writes[j]? = some first) (also : wire.writes[k]? = some second)
    (begun : 0 < first.offset) (unfinished : first.offset < first.frame.length)
    (begunAlso : 0 < second.offset) (unfinishedAlso : second.offset < second.frame.length) :
    ¬wire.Whole := by
  rintro ⟨order,last,sent,m,partly⟩
  have inLast (i : Nat) (write : Write Octet) (held : wire.writes[i]? = some write)
      (begun : 0 < write.offset) (unfinished : write.offset < write.frame.length) : m = i := by
    have total := counted i
    rw [count,sent,List.countP_append,held,Option.elim_some] at total
    have absent : i ∉ order := by
      intro member
      have block : (tagged i (wire.frame i)).Sublist (order.flatMap fun k => tagged k (wire.frame k)) := by
        rw [List.flatMap_def]
        exact List.sublist_flatten_of_mem (List.mem_map_of_mem member)
      have own : wire.frame i = write.frame := by simp [Wire.frame,held]
      have many := block.countP_le (p := fun entry => entry.1 == i)
      rw [countP_tagged,if_pos rfl,own] at many
      omega
    have nothing : (order.flatMap fun k => tagged k (wire.frame k)).countP (fun entry => entry.1 == i) = 0 := by
      rw [List.countP_eq_zero]
      intro entry member
      obtain ⟨k,listed,source⟩ := List.mem_flatMap.mp member
      obtain ⟨octet,-,rfl⟩ := List.mem_map.mp source
      intro same
      obtain rfl : k = i := by simpa using same
      exact absent listed
    rw [nothing,Nat.zero_add] at total
    have positive : 0 < last.countP fun entry => entry.1 == i := by omega
    obtain ⟨entry,member,own⟩ := List.countP_pos_iff.mp positive
    obtain ⟨octet,-,rfl⟩ := List.mem_map.mp (partly.subset member)
    simpa using own
  exact differ ((inLast j first held begun unfinished).symm.trans (inLast k second also begunAlso unfinishedAlso))

end RestRpc.Writes
