import Mathlib.Algebra.Group.Nat.Defs
import Mathlib.Data.List.Infix

/-! Searching and cutting of `std::string_view`, with positions and lengths of 64 bits. -/
namespace RestRpc.StringView

variable {α : Type}

def npos : Nat := 2^64 - 1

def add (a b : Nat) : Nat := (a + b) % 2^64

def sub (a b : Nat) : Nat := (a + (2^64 - b)) % 2^64

/-- `substr` of a position that is not behind the end. -/
def substr (text : List α) (position count : Nat) : List α := (text.drop position).take count

/-- The text is split at the first occurrence of the pattern. -/
def First (pattern text before after : List α) : Prop :=
  text = before ++ (pattern ++ after) ∧ ∀ b a, text = b ++ (pattern ++ a) → before.length ≤ b.length

def Last (pattern text before after : List α) : Prop :=
  text = before ++ (pattern ++ after) ∧ ∀ b a, text = b ++ (pattern ++ a) → b.length ≤ before.length

theorem infix_iff (pattern text : List α) : pattern <:+: text ↔ ∃ b a, text = b ++ (pattern ++ a) := by
  constructor
  · rintro ⟨b,a,rfl⟩
    exact ⟨b,a,List.append_assoc b pattern a⟩
  · rintro ⟨b,a,rfl⟩
    exact ⟨b,a,List.append_assoc b pattern a⟩

theorem others_of_absent [DecidableEq α] {c : α} {text : List α} (absent : c ∉ text) :
    ∀ d ∈ text, decide (d ≠ c) = true := fun d member => by
  have differs : d ≠ c := fun same => absent (same ▸ member)
  simpa using differs

theorem first_singleton {c : α} {before after : List α} (absent : c ∉ before) :
    First [c] (before ++ c::after) before after := by
  refine ⟨rfl,fun b a other => ?_⟩
  by_contra shorter
  have inside : c ∈ before := by
    have heads := congrArg (List.take before.length) other
    rw [List.take_left',List.take_append] at heads
    · rw [heads,List.mem_append]
      right
      have room : before.length - b.length ≠ 0 := by omega
      obtain ⟨n,room⟩ := Nat.exists_eq_succ_of_ne_zero room
      simp [room]
    · rfl
  exact absent inside

/-- What follows the first occurrence does not matter. -/
theorem First.append {pattern before : List α} (first : First pattern (before ++ (pattern ++ [])) before [])
    (after : List α) : First pattern (before ++ (pattern ++ after)) before after := by
  refine ⟨rfl,fun b a other => ?_⟩
  by_contra shorter
  rw [not_le] at shorter
  have room : b.length + pattern.length ≤ before.length + pattern.length := by omega
  have early : b ++ pattern <+: before ++ (pattern ++ after) := ⟨a,by rw [other,List.append_assoc]⟩
  have whole : before ++ pattern <+: before ++ (pattern ++ after) := ⟨after,List.append_assoc _ _ _⟩
  obtain ⟨rest,split⟩ := List.prefix_of_prefix_length_le early whole (by simpa using room)
  have least := first.2 b rest (by rw [List.append_nil,← split,List.append_assoc])
  omega

theorem add_eq {a b : Nat} (bound : a + b < 2^64) : add a b = a + b := Nat.mod_eq_of_lt bound

theorem sub_eq {a b : Nat} (le : b ≤ a) (bound : a < 2^64) : sub a b = a - b := by
  unfold sub
  omega

theorem sub_thrice {a b c d : Nat} (le : b + c + d ≤ a) (bound : a < 2^64) :
    sub (sub (sub a b) c) d = a - (b + c + d) := by
  unfold sub
  omega

/-- A difference that wraps around is longer than any text. -/
theorem substr_wrapped {text : List α} {position a b : Nat} (less : a < b) (bound : b + text.length ≤ 2^64) :
    substr text position (sub a b) = text.drop position := by
  refine List.take_of_length_le ?_
  rw [List.length_drop]
  unfold sub
  omega

theorem substr_between (before middle after : List α) :
    substr (before ++ (middle ++ after)) before.length middle.length = middle := by
  rw [substr,List.drop_left,List.take_left]

variable [DecidableEq α]

def firstIndex (pattern : List α) : List α → Option Nat
  | [] => if pattern.isEmpty then some 0 else none
  | octet::rest =>
    if pattern.isPrefixOf (octet::rest) then some 0 else (firstIndex pattern rest).map (· + 1)

def lastIndex (pattern : List α) : List α → Option Nat
  | [] => if pattern.isEmpty then some 0 else none
  | octet::rest =>
    match lastIndex pattern rest with
    | some index => some (index + 1)
    | none => if pattern.isPrefixOf (octet::rest) then some 0 else none

def find (text pattern : List α) : Nat := (firstIndex pattern text).getD npos

def rfind (text pattern : List α) : Nat := (lastIndex pattern text).getD npos

theorem firstIndex_none (pattern text : List α) : firstIndex pattern text = none ↔ ¬pattern <:+: text := by
  induction text with
  | nil => cases pattern <;> simp [firstIndex]
  | cons octet rest ih =>
    rw [List.infix_cons_iff,not_or,← ih,firstIndex]
    split
    · rename_i occurs
      simp [List.isPrefixOf_iff_prefix.mp occurs]
    · rename_i absent
      simpa using fun _ => absent

theorem lastIndex_none (pattern text : List α) : lastIndex pattern text = none ↔ ¬pattern <:+: text := by
  induction text with
  | nil => cases pattern <;> simp [lastIndex]
  | cons octet rest ih =>
    rw [List.infix_cons_iff,not_or,← ih,lastIndex]
    split
    · rename_i found
      simp [found]
    · rename_i absent
      simp [absent]

theorem firstIndex_some (pattern text : List α) (index : Nat) (found : firstIndex pattern text = some index) :
    ∃ before after, First pattern text before after ∧ before.length = index := by
  induction text generalizing index with
  | nil =>
    cases pattern with
    | nil => exact ⟨[],[],⟨rfl,by simp⟩,Option.some.inj found⟩
    | cons head pattern => cases found
  | cons octet rest ih =>
    rw [firstIndex] at found
    split at found
    · rename_i occurs
      obtain ⟨after,split⟩ := List.isPrefixOf_iff_prefix.mp occurs
      exact ⟨[],after,⟨split.symm,by simp⟩,Option.some.inj found⟩
    · rename_i absent
      obtain ⟨later,behind,rfl⟩ := Option.map_eq_some_iff.mp found
      obtain ⟨before,after,⟨split,least⟩,rfl⟩ := ih later behind
      refine ⟨octet::before,after,⟨by rw [split,List.cons_append],fun b a other => ?_⟩,rfl⟩
      cases b with
      | nil => exact absurd (List.isPrefixOf_iff_prefix.mpr ⟨a,other.symm⟩) absent
      | cons head b => exact Nat.succ_le_succ (least b a (List.cons.inj other).2)

theorem lastIndex_some (pattern text : List α) (index : Nat) (found : lastIndex pattern text = some index) :
    ∃ before after, Last pattern text before after ∧ before.length = index := by
  induction text generalizing index with
  | nil =>
    cases pattern with
    | nil =>
      refine ⟨[],[],⟨rfl,fun b a other => ?_⟩,Option.some.inj found⟩
      rw [(List.append_eq_nil_iff.mp other.symm).1]
    | cons head pattern => cases found
  | cons octet rest ih =>
    rw [lastIndex] at found
    split at found
    · rename_i later occurs
      obtain rfl := Option.some.inj found
      obtain ⟨before,after,⟨split,greatest⟩,rfl⟩ := ih later occurs
      refine ⟨octet::before,after,⟨by rw [split,List.cons_append],fun b a other => ?_⟩,rfl⟩
      cases b with
      | nil => exact Nat.zero_le _
      | cons head b => exact Nat.succ_le_succ (greatest b a (List.cons.inj other).2)
    · rename_i none
      split at found
      · rename_i occurs
        obtain rfl := Option.some.inj found
        obtain ⟨after,split⟩ := List.isPrefixOf_iff_prefix.mp occurs
        refine ⟨[],after,⟨split.symm,fun b a other => ?_⟩,rfl⟩
        cases b with
        | nil => exact le_rfl
        | cons head b =>
          have inside := (infix_iff pattern rest).mpr ⟨b,a,(List.cons.inj other).2⟩
          exact absurd inside ((lastIndex_none pattern rest).mp none)
      · cases found

theorem find_first {pattern text before after : List α} (first : First pattern text before after) :
    find text pattern = before.length := by
  cases found : firstIndex pattern text with
  | none => exact absurd ((infix_iff _ _).mpr ⟨before,after,first.1⟩) ((firstIndex_none _ _).mp found)
  | some index =>
    obtain ⟨b,a,other,rfl⟩ := firstIndex_some pattern text index found
    rw [find,found,Option.getD_some]
    exact Nat.le_antisymm (other.2 _ _ first.1) (first.2 _ _ other.1)

theorem rfind_last {pattern text before after : List α} (last : Last pattern text before after) :
    rfind text pattern = before.length := by
  cases found : lastIndex pattern text with
  | none => exact absurd ((infix_iff _ _).mpr ⟨before,after,last.1⟩) ((lastIndex_none _ _).mp found)
  | some index =>
    obtain ⟨b,a,other,rfl⟩ := lastIndex_some pattern text index found
    rw [rfind,found,Option.getD_some]
    exact Nat.le_antisymm (last.2 _ _ other.1) (other.2 _ _ last.1)

theorem find_absent {pattern text : List α} (absent : ¬pattern <:+: text) : find text pattern = npos := by
  rw [find,(firstIndex_none pattern text).mpr absent,Option.getD_none]

theorem rfind_absent {pattern text : List α} (absent : ¬pattern <:+: text) : rfind text pattern = npos := by
  rw [rfind,(lastIndex_none pattern text).mpr absent,Option.getD_none]

theorem find_singleton {c : α} {before after : List α} (absent : c ∉ before) :
    find (before ++ c::after) [c] = before.length := find_first (first_singleton absent)

theorem find_singleton_absent {c : α} {text : List α} (absent : c ∉ text) : find text [c] = npos :=
  find_absent fun occurs => absent (occurs.subset (List.mem_singleton_self c))

theorem substr_find {c : α} {text : List α} (occurs : c ∈ text) (bound : text.length < npos) :
    find text [c] ≠ npos ∧ substr text 0 (find text [c]) = text.takeWhile (· ≠ c) := by
  obtain ⟨before,after,rfl,absent⟩ := List.eq_append_cons_of_mem occurs
  rw [find_singleton absent,List.takeWhile_append_of_pos (others_of_absent absent)]
  refine ⟨?_,by simp [substr]⟩
  rw [List.length_append] at bound
  omega

theorem exists_first {pattern text : List α} (occurs : pattern <:+: text) :
    ∃ before after, First pattern text before after := by
  cases found : firstIndex pattern text with
  | none => exact absurd occurs ((firstIndex_none _ _).mp found)
  | some index =>
    obtain ⟨before,after,first,-⟩ := firstIndex_some pattern text index found
    exact ⟨before,after,first⟩

theorem find_zero_iff (text pattern : List α) : find text pattern = 0 ↔ pattern <+: text := by
  constructor
  · intro zero
    by_cases occurs : pattern <:+: text
    · obtain ⟨before,after,first⟩ := exists_first occurs
      rw [find_first first,List.length_eq_zero_iff] at zero
      exact ⟨after,by rw [first.1,zero,List.nil_append]⟩
    · rw [find_absent occurs] at zero
      cases zero
  · rintro ⟨after,rfl⟩
    exact find_first ⟨(List.nil_append _).symm,fun b _ _ => Nat.zero_le b.length⟩

theorem first_of_firstIndex {pattern before after : List α}
    (found : firstIndex pattern (before ++ (pattern ++ after)) = some before.length) :
    First pattern (before ++ (pattern ++ after)) before after := by
  obtain ⟨b,a,first,size⟩ := firstIndex_some _ _ _ found
  exact ⟨rfl,fun c d other => size ▸ first.2 c d other⟩

theorem exists_last {pattern text : List α} (occurs : pattern <:+: text) :
    ∃ before after, Last pattern text before after := by
  cases found : lastIndex pattern text with
  | none => exact absurd occurs ((lastIndex_none _ _).mp found)
  | some index =>
    obtain ⟨before,after,last,-⟩ := lastIndex_some pattern text index found
    exact ⟨before,after,last⟩

end RestRpc.StringView
