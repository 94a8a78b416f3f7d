import Mathlib.Tactic.Ring

/-! Readers that fill a value in place. A reader takes octets from the front of those that are left,
and after an error it leaves the value as far as it was filled and the octets that it has not taken.
A reader may also pass over the error of another one, and then reads on from there. -/
namespace RestRpc.InPlaceReader

variable {Octet Error α β γ : Type}

structure Reading (Octet Error α : Type) where
  error : Option Error
  value : α
  rest : List Octet
  deriving DecidableEq,Repr

abbrev Reader (Octet Error α : Type) : Type := List Octet → Reading Octet Error α

namespace Reader

def done (value : α) : Reader Octet Error α := fun octets => ⟨none,value,octets⟩

def fail (error : Error) (unread : α) : Reader Octet Error α := fun octets => ⟨some error,unread,octets⟩

/-- The next `count` octets, all of them or none. -/
def exactly (count : Nat) (tooFew : Error) (unread : α)
    (view : (octets : List Octet) → octets.length = count → α) : Reader Octet Error α := fun octets =>
  if enough : (octets.take count).length = count then
    ⟨none,view (octets.take count) enough,octets.drop count⟩
  else ⟨some tooFew,unread,octets⟩

/-- Nothing is taken unless `count` octets are there. -/
def requiring (count : Nat) (tooFew : Error) (unread : α) (reader : Reader Octet Error α) :
    Reader Octet Error α := fun octets =>
  if octets.length < count then ⟨some tooFew,unread,octets⟩ else reader octets

def map (f : α → β) (reader : Reader Octet Error α) : Reader Octet Error β := fun octets =>
  ⟨(reader octets).error,f (reader octets).value,(reader octets).rest⟩

def dismiss (reader : Reader Octet Error α) : Reader Octet Error α := fun octets =>
  ⟨none,(reader octets).value,(reader octets).rest⟩

def andThen (first : Reader Octet Error α) (unread : β) (second : α → Reader Octet Error β) :
    Reader Octet Error β := fun octets =>
  match (first octets).error with
  | some error => ⟨some error,unread,(first octets).rest⟩
  | none => second (first octets).value (first octets).rest

def pair (first : Reader Octet Error α) (unread : β) (second : Reader Octet Error β) :
    Reader Octet Error (α × β) := fun octets =>
  match (first octets).error with
  | some error => ⟨some error,((first octets).value,unread),(first octets).rest⟩
  | none => (second.map ((first octets).value,·)) (first octets).rest

/-- `count` items, each put at the back before it is read. -/
def many (item : Reader Octet Error α) : Nat → Reader Octet Error (List α)
  | 0 => done []
  | count+1 => fun octets =>
    match (item octets).error with
    | some error => ⟨some error,[(item octets).value],(item octets).rest⟩
    | none => ((many item count).map ((item octets).value::·)) (item octets).rest

/-- `count` items that are there before they are read. -/
def times (item : Reader Octet Error α) (unread : α) :
    (count : Nat) → Reader Octet Error {items : List α // items.length = count}
  | 0 => done ⟨[],rfl⟩
  | count+1 => (pair item ⟨List.replicate count unread,List.length_replicate⟩ (times item unread count)).map
      fun (first,items) => ⟨first::items.val,congrArg (·+1) items.property⟩

end Reader

open Reader

def Takes (reader : Reader Octet Error α) (octets : List Octet) (value : α) : Prop :=
  ∀ rest, reader (octets ++ rest) = ⟨none,value,rest⟩

def Accepts (reader : Reader Octet Error α) (write : α → List Octet) : Prop :=
  ∀ octets, (reader octets).error = none → octets = write (reader octets).value ++ (reader octets).rest

/-- Unless the reader wants more octets, those that stand behind make no difference. -/
def Definite (reader : Reader Octet Error α) (tooFew : Error) : Prop :=
  ∀ octets more, (reader octets).error ≠ some tooFew →
    reader (octets ++ more) = ⟨(reader octets).error,(reader octets).value,(reader octets).rest ++ more⟩

/-- Every unit of the value's weight is paid for by an octet taken, but for `credit`; a reader that ends
without error has paid for all of it, and has taken `advance` octets more. -/
def Pays (reader : Reader Octet Error α) (weight : α → Nat) (advance credit : Nat) : Prop :=
  ∀ octets, weight (reader octets).value + (reader octets).rest.length ≤ octets.length + credit ∧
    ((reader octets).error = none →
      weight (reader octets).value + advance + (reader octets).rest.length ≤ octets.length)

theorem exactly_ended {count : Nat} {tooFew : Error} {unread : α}
    {view : (octets : List Octet) → octets.length = count → α} {octets : List Octet}
    (ended : (exactly count tooFew unread view octets).error = none) :
    ∃ enough : (octets.take count).length = count,
      exactly count tooFew unread view octets = ⟨none,view (octets.take count) enough,octets.drop count⟩ := by
  unfold exactly at ended ⊢
  by_cases enough : (octets.take count).length = count
  · exact ⟨enough,dif_pos enough⟩
  · rw [dif_neg enough] at ended
    cases ended

theorem andThen_ended {first : Reader Octet Error α} {unread : β} {second : α → Reader Octet Error β}
    {octets : List Octet} (ended : ((first.andThen unread second) octets).error = none) :
    (first octets).error = none ∧
      first.andThen unread second octets = second (first octets).value (first octets).rest := by
  unfold andThen at ended ⊢
  cases before : (first octets).error with
  | some error => simp [before] at ended
  | none => exact ⟨rfl,rfl⟩

theorem andThen_failed {first : Reader Octet Error α} {unread : β} {second : α → Reader Octet Error β}
    {octets : List Octet} {error : Error} (failed : (first octets).error = some error) :
    ((first.andThen unread second) octets).error = some error := by
  simp only [andThen,failed]

section takes

theorem takes_done (value : α) : Takes (done value : Reader Octet Error α) [] value := fun _ => rfl

theorem takes_exactly (count : Nat) (tooFew : Error) (unread : α)
    (view : (octets : List Octet) → octets.length = count → α) (octets : List Octet)
    (size : octets.length = count) : Takes (exactly count tooFew unread view) octets (view octets size) := by
  subst size
  intro rest
  simp [exactly]

variable {reader : Reader Octet Error α} {octets : List Octet} {value : α}

theorem Takes.requiring (takes : Takes reader octets value) (count : Nat) (tooFew : Error) (unread : α)
    (enough : count ≤ octets.length) : Takes (requiring count tooFew unread reader) octets value := by
  intro rest
  have whole : ¬(octets ++ rest).length < count := by
    rw [List.length_append]
    omega
  rw [Reader.requiring,if_neg whole]
  exact takes rest

theorem Takes.map (takes : Takes reader octets value) (f : α → β) : Takes (reader.map f) octets (f value) := by
  intro rest
  rw [Reader.map,takes rest]

theorem Takes.dismiss (takes : Takes reader octets value) : Takes reader.dismiss octets value := by
  intro rest
  rw [Reader.dismiss,takes rest]

theorem Takes.andThen (takes : Takes reader octets value) (unread : β) {next : α → Reader Octet Error β}
    {more : List Octet} {result : β} (takesNext : Takes (next value) more result) :
    Takes (reader.andThen unread next) (octets ++ more) result := by
  intro rest
  rw [List.append_assoc,Reader.andThen,takes (more ++ rest)]
  exact takesNext rest

theorem Takes.pair (takes : Takes reader octets value) (unread : β) {second : Reader Octet Error β}
    {more : List Octet} {other : β} (takesSecond : Takes second more other) :
    Takes (reader.pair unread second) (octets ++ more) (value,other) := by
  intro rest
  rw [List.append_assoc,Reader.pair,takes (more ++ rest)]
  exact takesSecond.map (value,·) rest

theorem takes_many (write : α → List Octet) (items : List α)
    (takes : ∀ item ∈ items, Takes reader (write item) item) :
    Takes (many reader items.length) (items.flatMap write) items := by
  induction items with
  | nil => exact takes_done []
  | cons item items ih =>
    have first := takes item List.mem_cons_self
    have others := ih fun other member => takes other (List.mem_cons_of_mem _ member)
    intro rest
    rw [List.flatMap_cons,List.append_assoc]
    simp only [List.length_cons,many,first (items.flatMap write ++ rest)]
    exact others.map (item::·) rest

theorem takes_times (unread : α) (write : α → List Octet) (count : Nat)
    (items : {items : List α // items.length = count})
    (takes : ∀ item ∈ items.val, Takes reader (write item) item) :
    Takes (times reader unread count) (items.val.flatMap write) items := by
  induction count with
  | zero =>
    obtain ⟨items,none⟩ := items
    obtain rfl : items = [] := List.length_eq_zero_iff.mp none
    exact takes_done _
  | succ count ih =>
    obtain ⟨items,size⟩ := items
    cases items with
    | nil => cases size
    | cons item items =>
      have rest := ih ⟨items,Nat.succ.inj size⟩ fun other member => takes other (List.mem_cons_of_mem _ member)
      exact ((takes item List.mem_cons_self).pair _ rest).map _

end takes

section accepts

theorem accepts_exactly (count : Nat) (tooFew : Error) (unread : α)
    (view : (octets : List Octet) → octets.length = count → α) (write : α → List Octet)
    (back : ∀ octets size, write (view octets size) = octets) :
    Accepts (exactly count tooFew unread view) write := by
  intro octets ended
  obtain ⟨enough,read⟩ := exactly_ended ended
  rw [read,back,List.take_append_drop]

variable {reader : Reader Octet Error α} {write : α → List Octet}

theorem Accepts.requiring (accepts : Accepts reader write) (count : Nat) (tooFew : Error) (unread : α) :
    Accepts (requiring count tooFew unread reader) write := by
  intro octets ended
  unfold Reader.requiring at ended ⊢
  split
  · rename_i short
    simp [short] at ended
  · rename_i enough
    rw [if_neg enough] at ended
    exact accepts octets ended

theorem Accepts.map (accepts : Accepts reader write) (f : α → β) (writeResult : β → List Octet)
    (same : ∀ value, writeResult (f value) = write value) : Accepts (reader.map f) writeResult := by
  intro octets ended
  rw [Reader.map,same]
  exact accepts octets ended

theorem Accepts.andThen (accepts : Accepts reader write) (unread : β) {next : α → Reader Octet Error β}
    {writeResult : β → List Octet} (head : β → α) (acceptsNext : ∀ value, Accepts (next value) writeResult)
    (told : ∀ value octets, (next value octets).error = none → head (next value octets).value = value) :
    Accepts (reader.andThen unread next) fun result => write (head result) ++ writeResult result := by
  intro octets ended
  unfold Reader.andThen at ended ⊢
  split
  · rename_i error failed
    simp [failed] at ended
  · rename_i first
    simp only [first] at ended
    have before := accepts octets first
    have after := acceptsNext _ _ ended
    have same := told _ _ ended
    change octets = (write (head _) ++ writeResult _) ++ _
    rw [same,List.append_assoc]
    exact before.trans (congrArg _ after)

theorem Accepts.pair (accepts : Accepts reader write) (unread : β) {second : Reader Octet Error β}
    {writeSecond : β → List Octet} (acceptsSecond : Accepts second writeSecond) :
    Accepts (reader.pair unread second) fun both => write both.1 ++ writeSecond both.2 := by
  intro octets ended
  unfold Reader.pair at ended ⊢
  split
  · rename_i error failed
    simp [failed] at ended
  · rename_i first
    simp only [first] at ended
    have before := accepts octets first
    have after := acceptsSecond _ ended
    rw [List.append_assoc]
    exact before.trans (congrArg _ after)

theorem accepts_many (accepts : Accepts reader write) (count : Nat) :
    Accepts (many reader count) fun items => items.flatMap write := by
  induction count with
  | zero => exact fun _ _ => rfl
  | succ count ih =>
    intro octets ended
    unfold many at ended ⊢
    split
    · rename_i error failed
      simp [failed] at ended
    · rename_i first
      simp only [first] at ended
      have before := accepts octets first
      have after := ih _ ended
      simp only [Reader.map,List.flatMap_cons,List.append_assoc]
      exact before.trans (congrArg _ after)

theorem accepts_times (accepts : Accepts reader write) (unread : α) (count : Nat) :
    Accepts (times reader unread count) fun items => items.val.flatMap write := by
  induction count with
  | zero => exact fun _ _ => rfl
  | succ count ih =>
    exact (accepts.pair _ ih).map _ _ fun both => by rw [List.flatMap_cons]

theorem many_length (count : Nat) (octets : List Octet) (ended : (many reader count octets).error = none) :
    (many reader count octets).value.length = count := by
  induction count generalizing octets with
  | zero => rfl
  | succ count ih =>
    unfold many at ended ⊢
    split
    · rename_i error failed
      simp [failed] at ended
    · rename_i first
      simp only [first] at ended
      exact congrArg (·+1) (ih _ ended)

end accepts

section definite

variable {reader : Reader Octet Error α} {tooFew : Error}

theorem definite_done (value : α) : Definite (done value : Reader Octet Error α) tooFew := fun _ _ _ => rfl

theorem definite_fail (error : Error) (unread : α) :
    Definite (fail error unread : Reader Octet Error α) tooFew := fun _ _ _ => rfl

theorem definite_exactly (count : Nat) (unread : α)
    (view : (octets : List Octet) → octets.length = count → α) :
    Definite (exactly count tooFew unread view) tooFew := by
  intro octets more settled
  by_cases enough : (octets.take count).length = count
  · have inside : count ≤ octets.length := by
      rw [List.length_take] at enough
      omega
    have taken : (octets ++ more).take count = octets.take count := List.take_append_of_le_length inside
    have left : (octets ++ more).drop count = octets.drop count ++ more := List.drop_append_of_le_length inside
    simp only [exactly,taken,left,dif_pos enough]
  · rw [exactly,dif_neg enough] at settled
    exact absurd rfl settled

theorem Definite.requiring (definite : Definite reader tooFew) (count : Nat) (unread : α) :
    Definite (requiring count tooFew unread reader) tooFew := by
  intro octets more settled
  by_cases short : octets.length < count
  · simp [Reader.requiring,short] at settled
  · have whole : ¬(octets ++ more).length < count := by
      rw [List.length_append]
      omega
    simp only [Reader.requiring,if_neg short,if_neg whole] at settled ⊢
    exact definite octets more settled

theorem Definite.map (definite : Definite reader tooFew) (f : α → β) : Definite (reader.map f) tooFew := by
  intro octets more settled
  rw [Reader.map,definite octets more settled]
  rfl

theorem Definite.andThen (definite : Definite reader tooFew) (unread : β) {next : α → Reader Octet Error β}
    (definiteNext : ∀ value, Definite (next value) tooFew) : Definite (reader.andThen unread next) tooFew := by
  intro octets more settled
  unfold Reader.andThen at settled ⊢
  cases first : (reader octets).error with
  | some error =>
    simp only [first] at settled
    rw [definite octets more (first ▸ settled)]
    simp only [first]
  | none =>
    simp only [first] at settled
    rw [definite octets more (by simp [first])]
    simp only [first]
    exact definiteNext _ _ more settled

theorem Definite.pair (definite : Definite reader tooFew) (unread : β) {second : Reader Octet Error β}
    (definiteSecond : Definite second tooFew) : Definite (reader.pair unread second) tooFew := by
  intro octets more settled
  unfold Reader.pair at settled ⊢
  cases first : (reader octets).error with
  | some error =>
    simp only [first] at settled
    rw [definite octets more (first ▸ settled)]
    simp only [first]
  | none =>
    simp only [first] at settled
    rw [definite octets more (by simp [first])]
    simp only [first]
    exact (definiteSecond.map _) _ more settled

theorem definite_many (definite : Definite reader tooFew) (count : Nat) :
    Definite (many reader count) tooFew := by
  induction count with
  | zero => exact definite_done []
  | succ count ih =>
    intro octets more settled
    unfold many at settled ⊢
    cases first : (reader octets).error with
    | some error =>
      simp only [first] at settled
      rw [definite octets more (first ▸ settled)]
      simp only [first]
    | none =>
      simp only [first] at settled
      rw [definite octets more (by simp [first])]
      simp only [first]
      exact (ih.map _) _ more settled

theorem definite_times (definite : Definite reader tooFew) (unread : α) (count : Nat) :
    Definite (times reader unread count) tooFew := by
  induction count with
  | zero => exact definite_done _
  | succ count ih => exact (definite.pair _ ih).map _

/-- A proper beginning of a text that the reader takes is refused. -/
theorem beginning_refused (definite : Definite reader tooFew) {octets : List Octet} {value : α}
    (takes : Takes reader octets value) (early later : List Octet) (split : octets = early ++ later)
    (cut : later ≠ []) : (reader early).error = some tooFew := by
  by_contra settled
  have whole := definite early later settled
  have again := takes []
  rw [List.append_nil,split,whole] at again
  have nothing : (reader early).rest ++ later = [] := congrArg Reading.rest again
  exact cut (List.append_eq_nil_iff.mp nothing).2

end definite

section pays

variable {reader : Reader Octet Error α} {weight : α → Nat} {advance credit : Nat}

theorem pays_done (value : α) (free : weight value = 0) :
    Pays (done value : Reader Octet Error α) weight 0 0 := by
  intro octets
  simp [done,free]

theorem pays_fail (error : Error) (unread : α) (free : weight unread = 0) :
    Pays (fail error unread : Reader Octet Error α) weight advance 0 := by
  intro octets
  simp [fail,free]

theorem pays_exactly (count : Nat) (tooFew : Error) (unread : α)
    (view : (octets : List Octet) → octets.length = count → α)
    (paid : ∀ octets size, weight (view octets size) + advance ≤ count) (free : weight unread = 0) :
    Pays (exactly count tooFew unread view) weight advance 0 := by
  intro octets
  unfold exactly
  split
  · rename_i enough
    have few := paid _ enough
    rw [List.length_take] at enough
    simp only [List.length_drop]
    omega
  · simp [free]

theorem Pays.weaken {less more : Nat} (pays : Pays reader weight advance credit) (fewer : less ≤ advance)
    (further : credit ≤ more) : Pays reader weight less more := by
  intro octets
  obtain ⟨always,ended⟩ := pays octets
  refine ⟨by omega,fun accepted => ?_⟩
  have paid := ended accepted
  omega

theorem Pays.requiring (pays : Pays reader weight advance credit) (count : Nat) (tooFew : Error)
    (unread : α) (free : weight unread = 0) : Pays (requiring count tooFew unread reader) weight advance credit := by
  intro octets
  unfold Reader.requiring
  split
  · simp [free]
  · exact pays octets

theorem Pays.map (pays : Pays reader weight advance credit) (f : α → β) (weightResult : β → Nat)
    (same : ∀ value, weightResult (f value) = weight value) :
    Pays (reader.map f) weightResult advance credit := by
  intro octets
  simp only [Reader.map,same]
  exact pays octets

theorem Pays.dismiss (pays : Pays reader weight advance 0) : Pays reader.dismiss weight 0 0 := by
  intro octets
  exact ⟨(pays octets).1,fun _ => (pays octets).1⟩

theorem Pays.andThen (pays : Pays reader (fun _ => 0) advance 0) (unread : β)
    {next : α → Reader Octet Error β} (weightResult : β → Nat) (covered : credit ≤ advance)
    (paysNext : ∀ value, Pays (next value) weightResult 0 credit) (free : weightResult unread = 0) :
    Pays (reader.andThen unread next) weightResult advance 0 := by
  intro octets
  have before := pays octets
  unfold Reader.andThen
  split
  · simp only [free]
    exact ⟨before.1,fun ended => by cases ended⟩
  · rename_i first
    have after := paysNext (reader octets).value (reader octets).rest
    have taken := before.2 first
    refine ⟨by omega,fun ended => ?_⟩
    have rest := after.2 ended
    omega

theorem Pays.pair (pays : Pays reader weight advance 0) (unread : β) {second : Reader Octet Error β}
    {weightSecond : β → Nat} {more : Nat} (paysSecond : Pays second weightSecond more 0)
    (free : weightSecond unread = 0) :
    Pays (reader.pair unread second) (fun both => weight both.1 + weightSecond both.2) (advance+more) 0 := by
  intro octets
  have before := pays octets
  unfold Reader.pair
  split
  · simp only [free]
    exact ⟨before.1,fun ended => by cases ended⟩
  · rename_i first
    have after := paysSecond (reader octets).rest
    have taken := before.2 first
    simp only [Reader.map]
    refine ⟨by omega,fun ended => ?_⟩
    have rest := after.2 ended
    omega

/-- The last item may be one that was put at the back and not read. -/
theorem pays_many (pays : Pays reader weight 1 0) (count : Nat) :
    Pays (many reader count) (fun items => (items.map (weight · + 1)).sum) 0 1 := by
  induction count with
  | zero => intro octets; simp [many,done]
  | succ count ih =>
    intro octets
    have before := pays octets
    unfold many
    split
    · simp only [List.map_cons,List.map_nil,List.sum_cons,List.sum_nil]
      exact ⟨by omega,fun ended => by cases ended⟩
    · rename_i first
      have after := ih (reader octets).rest
      have taken := before.2 first
      simp only [Reader.map,List.map_cons,List.sum_cons] at after ⊢
      refine ⟨by omega,fun ended => ?_⟩
      have rest := after.2 ended
      omega

theorem pays_times (pays : Pays reader weight advance 0) (unread : α) (free : weight unread = 0)
    (count : Nat) :
    Pays (times reader unread count) (fun items => (items.val.map weight).sum) (count*advance) 0 := by
  induction count with
  | zero =>
    rw [Nat.zero_mul]
    exact pays_done _ rfl
  | succ count ih =>
    have idle : ((List.replicate count unread).map weight).sum = 0 := by simp [free]
    have both := (pays.pair ⟨List.replicate count unread,List.length_replicate⟩ ih idle).map
      (fun both => (⟨both.1::both.2.val,congrArg (·+1) both.2.property⟩ :
        {items : List α // items.length = count+1}))
      (fun items => (items.val.map weight).sum) fun both => by simp
    have total : (count+1)*advance = advance + count*advance := by ring
    exact total ▸ both

end pays

end RestRpc.InPlaceReader
