import RestRpc.Dispatch
import RestRpc.StringView

/-! The name under which a function is registered and called, cut out of the compiler's signature text
by `function_name.h`, and when two functions have different ones. -/
namespace RestRpc.FunctionName
open StringView Codec Md5 Router Dispatch

inductive Compiler
  | msvc
  | clang
  | gcc
  deriving DecidableEq,Repr

namespace Compiler

def suffixSize : Compiler → Nat
  | msvc => 16
  | clang => 1
  | gcc => 1

def keyword : Compiler → List UInt8
  | msvc => ascii "rest_rpc::detail::qualified_name_of_impl<"
  | clang => ascii "[Func = "
  | gcc => ascii "Func = "

def anonymousNamespace : Compiler → List UInt8
  | msvc => 96::ascii "anonymous-namespace" ++ 39::ascii "::"
  | clang => ascii "(anonymous namespace)::"
  | gcc => ascii "{anonymous}::"

end Compiler

variable (compiler : Compiler)

def intermediate (signature : List UInt8) : List UInt8 :=
  let prefixSize := add (find signature compiler.keyword) compiler.keyword.length
  let additionalSize := if signature[prefixSize]? = some 38 then 1 else 0
  substr signature (add prefixSize additionalSize)
    (sub (sub (sub signature.length prefixSize) additionalSize) compiler.suffixSize)

/-- The rest of `qualified_name_of_impl`. Two is added to the position of `"l "` before it is compared
with `npos`. -/
def shorten (result : List UInt8) : List UInt8 :=
  let rpos := rfind result compiler.anonymousNamespace
  if rpos ≠ npos then
    let str := substr result (add rpos compiler.anonymousNamespace.length) npos
    let right := find str [40]
    if right ≠ npos then substr str 0 right else str
  else
    let left := add (find result (ascii "l ")) 2
    let right := find result [40]
    if left ≠ npos then
      if right ≠ npos then substr result left (sub right left) else result
    else result

def qualifiedNameOfImpl (signature : List UInt8) : List UInt8 := shorten compiler (intermediate compiler signature)

def stringViewArrayHas (array : List (List UInt8)) (value : List UInt8) : List UInt8 :=
  (array.find? fun v => find value v = 0).getD []

def funcStyleArray : List (List UInt8) :=
  [ascii "__cdecl ",ascii "__clrcall ",ascii "__stdcall ",ascii "__fastcall ",ascii "__thiscall ",
    ascii "__vectorcall "]

def withoutStyle (qualifiedName : List UInt8) : List UInt8 :=
  let funcStyle := stringViewArrayHas funcStyleArray qualifiedName
  if 0 < funcStyle.length then qualifiedName.drop funcStyle.length else qualifiedName

def getFuncName (signature : List UInt8) : List UInt8 := withoutStyle (qualifiedNameOfImpl compiler signature)

def getKey (signature : List UInt8) : UInt32 := md5Hash32 (getFuncName compiler signature)

/-- A signature text in the form that the constants of the branch describe. -/
structure Printed where
  signature : List UInt8
  before : List UInt8
  ampersand : Bool
  name : List UInt8
  suffix : List UInt8
  first : First compiler.keyword signature before ((if ampersand then [38] else []) ++ (name ++ suffix))
  sized : suffix.length = compiler.suffixSize
  named : name ≠ []
  bare : ampersand = false → name.head? ≠ some 38
  bound : signature.length < maxSize

/-- What `qualified_name_of_impl` keeps of a name. With a marker, what stands behind the last one and
before a parenthesis; without marker and parenthesis, everything. Otherwise the text between the first
`"l "`, or the first character, and the first parenthesis, or the end when the parenthesis comes first. -/
inductive Keeps : List UInt8 → List UInt8 → Prop
  | marked {name scope inner : List UInt8} (last : Last compiler.anonymousNamespace name scope inner) :
      Keeps name (inner.takeWhile (· ≠ 40))
  | whole {name : List UInt8} (unmarked : ¬compiler.anonymousNamespace <:+: name) (plain : 40 ∉ name) :
      Keeps name name
  | headless {head : UInt8} {kept tail : List UInt8}
      (unmarked : ¬compiler.anonymousNamespace <:+: head::(kept ++ 40::tail))
      (unspaced : ¬ascii "l " <:+: head::(kept ++ 40::tail)) (plain : 40 ∉ head::kept) :
      Keeps (head::(kept ++ 40::tail)) kept
  | tail {tail : List UInt8} (unmarked : ¬compiler.anonymousNamespace <:+: 40::tail)
      (unspaced : ¬ascii "l " <:+: 40::tail) : Keeps (40::tail) tail
  | spaced {name before kept tail : List UInt8} (unmarked : ¬compiler.anonymousNamespace <:+: name)
      (first : First (ascii "l ") name before (kept ++ 40::tail)) (plain : 40 ∉ before ++ kept) : Keeps name kept
  | late {name before after : List UInt8} (unmarked : ¬compiler.anonymousNamespace <:+: name)
      (first : First (ascii "l ") name before after) (early : 40 ∈ before) : Keeps name after

def Bare (text bare : List UInt8) : Prop :=
  (∃ style ∈ funcStyleArray, text = style ++ bare) ∨ (∀ style ∈ funcStyleArray, ¬style <+: text) ∧ bare = text

def Leaves (name bare : List UInt8) : Prop := ∃ kept, Keeps compiler name kept ∧ Bare kept bare

variable {compiler}

theorem intermediate_printed (printed : Printed compiler) :
    intermediate compiler printed.signature = printed.name := by
  obtain ⟨signature,before,ampersand,name,suffix,first,sized,named,bare,bound⟩ := printed
  change intermediate compiler signature = name
  have start := find_first first
  have skipped : (if ((if ampersand then [38] else []) ++ (name ++ suffix)).head? = some 38 then 1 else 0) =
      (if ampersand then [38] else [] : List UInt8).length := by
    cases ampersand with
    | true => rfl
    | false => simpa [List.head?_append_of_ne_nil _ named] using bare rfl
  generalize (if ampersand then [38] else [] : List UInt8) = ampersands at first skipped
  have split := first.1
  have total := congrArg List.length split
  simp only [List.length_append] at total
  simp only [maxSize] at bound
  have behind : signature[(before ++ compiler.keyword).length]? = (ampersands ++ (name ++ suffix)).head? := by
    rw [split,← List.append_assoc,List.getElem?_append_right le_rfl,Nat.sub_self,List.head?_eq_getElem?]
  have prefixed : add before.length compiler.keyword.length = (before ++ compiler.keyword).length := by
    rw [add_eq (by omega),List.length_append]
  have whole : add (before ++ compiler.keyword).length ampersands.length =
      (before ++ compiler.keyword ++ ampersands).length := by
    simp only [List.length_append]
    exact add_eq (by omega)
  have size : signature.length - ((before ++ compiler.keyword).length + ampersands.length + compiler.suffixSize) =
      name.length := by
    rw [List.length_append,← sized]
    omega
  simp only [intermediate,start,prefixed,behind,skipped,whole]
  rw [sub_thrice (by rw [List.length_append,← sized]; omega) (by omega),size]
  have grouped : signature = before ++ compiler.keyword ++ ampersands ++ (name ++ suffix) := by simp [split]
  rw [grouped,substr_between]

theorem position_ne_npos {name : List UInt8} (bound : name.length < maxSize) (before pattern after : List UInt8)
    (split : name = before ++ (pattern ++ after)) : before.length ≠ npos := by
  have total := congrArg List.length split
  simp only [List.length_append] at total
  simp only [maxSize] at bound
  simp only [npos]
  omega

theorem left_spaced {name before after : List UInt8} (bound : name.length < maxSize)
    (first : First (ascii "l ") name before after) :
    add (find name (ascii "l ")) 2 = (before ++ ascii "l ").length ∧ (before ++ ascii "l ").length ≤ name.length := by
  have two : (ascii "l ").length = 2 := rfl
  have total := congrArg List.length first.1
  simp only [List.length_append,two,maxSize] at total bound ⊢
  exact ⟨by rw [find_first first,add_eq (by omega)],by omega⟩

theorem left_unspaced {name : List UInt8} (unspaced : ¬ascii "l " <:+: name) :
    add (find name (ascii "l ")) 2 = 1 := by
  rw [find_absent unspaced]
  rfl

theorem left_ne_npos {name : List UInt8} (bound : name.length < maxSize) :
    add (find name (ascii "l ")) 2 ≠ npos := by
  by_cases spaced : ascii "l " <:+: name
  · obtain ⟨before,after,first⟩ := exists_first spaced
    obtain ⟨left,inside⟩ := left_spaced bound first
    rw [left]
    simp only [maxSize] at bound
    simp only [npos]
    omega
  · rw [left_unspaced spaced]
    decide

theorem shorten_unmarked {name : List UInt8} (bound : name.length < maxSize)
    (unmarked : ¬compiler.anonymousNamespace <:+: name) :
    shorten compiler name =
      if find name [40] ≠ npos then
        substr name (add (find name (ascii "l ")) 2) (sub (find name [40]) (add (find name (ascii "l ")) 2))
      else name := by
  simp only [shorten,rfind_absent unmarked,ne_eq,not_true_eq_false,if_false,left_ne_npos bound,not_false_eq_true,
    if_true]

theorem shorten_marked {name scope inner : List UInt8} (bound : name.length < maxSize)
    (last : Last compiler.anonymousNamespace name scope inner) :
    shorten compiler name = inner.takeWhile (· ≠ 40) := by
  have marker := position_ne_npos bound _ _ _ last.1
  have total := congrArg List.length last.1
  simp only [List.length_append] at total
  simp only [maxSize] at bound
  have skipped : add scope.length compiler.anonymousNamespace.length =
      (scope ++ compiler.anonymousNamespace).length := by
    rw [add_eq (by omega),List.length_append]
  have rest : substr name (scope ++ compiler.anonymousNamespace).length npos = inner := by
    rw [last.1,← List.append_assoc,substr,List.drop_left]
    exact List.take_of_length_le (by simp only [npos]; omega)
  simp only [shorten,rfind_last last,marker,ne_eq,not_false_eq_true,if_true,skipped,rest]
  by_cases occurs : 40 ∈ inner
  · obtain ⟨found,before⟩ := substr_find occurs (by simp only [npos]; omega)
    rw [if_pos found,before]
  · rw [find_singleton_absent occurs,if_neg (by decide),
      List.takeWhile_eq_self_iff.mpr (others_of_absent occurs)]

theorem Keeps.shorten {name kept : List UInt8} (bound : name.length < maxSize) (keeps : Keeps compiler name kept) :
    shorten compiler name = kept := by
  cases keeps with
  | marked last => exact shorten_marked bound last
  | whole unmarked plain =>
    rw [shorten_unmarked bound unmarked,find_singleton_absent plain,if_neg (by decide)]
  | @headless head _ tail unmarked unspaced plain =>
    have right : find (head::(kept ++ 40::tail)) [40] = (head::kept).length := find_singleton plain
    have found := position_ne_npos bound (head::kept) [40] tail rfl
    rw [shorten_unmarked bound unmarked,right,if_pos found,left_unspaced unspaced]
    simp only [List.length_cons,List.length_append,maxSize] at bound
    rw [List.length_cons,sub_eq (by omega) (by omega)]
    exact substr_between [head] kept (40::tail)
  | @tail tail unmarked unspaced =>
    have right : find ([] ++ 40::kept) [40] = ([] : List UInt8).length := find_singleton (by simp)
    rw [List.nil_append,List.length_nil] at right
    rw [shorten_unmarked bound unmarked,right,if_pos (by decide),left_unspaced unspaced]
    simp only [maxSize] at bound
    exact substr_wrapped (by decide) (by omega)
  | @spaced _ before _ tail unmarked first plain =>
    have split : name = (before ++ ascii "l " ++ kept) ++ 40::tail := by simp [first.1]
    have outside : 40 ∉ before ++ ascii "l " ++ kept := by
      have noParen : 40 ∉ ascii "l " := by decide
      simp only [List.mem_append,not_or] at plain ⊢
      exact ⟨⟨plain.1,noParen⟩,plain.2⟩
    have right : find name [40] = (before ++ ascii "l " ++ kept).length := split ▸ find_singleton outside
    have found := position_ne_npos bound _ [40] tail split
    have left := (left_spaced bound first).1
    rw [shorten_unmarked bound unmarked,right,if_pos found,left]
    have total := congrArg List.length split
    have grouped : name = (before ++ ascii "l ") ++ (kept ++ 40::tail) := by simp [first.1]
    generalize before ++ ascii "l " = skipped at total grouped
    simp only [List.length_append,List.length_cons,maxSize] at total bound
    rw [List.length_append,sub_eq (by omega) (by omega),Nat.add_sub_cancel_left,grouped,substr_between]
  | @late _ before after unmarked first early =>
    obtain ⟨front,rest,same,absent⟩ := List.eq_append_cons_of_mem early
    have split : name = front ++ 40::(rest ++ (ascii "l " ++ kept)) := by simp [first.1,same]
    have right : find name [40] = front.length := split ▸ find_singleton absent
    have found := position_ne_npos bound front [40] _ split
    obtain ⟨left,inside⟩ := left_spaced bound first
    rw [shorten_unmarked bound unmarked,right,if_pos found,left]
    have ahead := congrArg List.length same
    simp only [List.length_append,List.length_cons,maxSize] at ahead bound inside
    have grouped : name = (before ++ ascii "l ") ++ kept := by simp [first.1]
    rw [substr_wrapped (by rw [List.length_append]; omega) (by rw [List.length_append]; omega),grouped,
      List.drop_left]

/-- The relation covers every name. -/
theorem exists_keeps (name : List UInt8) : ∃ kept, Keeps compiler name kept := by
  by_cases marked : compiler.anonymousNamespace <:+: name
  · obtain ⟨scope,inner,last⟩ := exists_last marked
    exact ⟨_,.marked last⟩
  by_cases plain : 40 ∉ name
  · exact ⟨_,.whole marked plain⟩
  obtain ⟨front,tail,split,absent⟩ := List.eq_append_cons_of_mem (not_not.mp plain)
  by_cases spaced : ascii "l " <:+: name
  · obtain ⟨before,after,first⟩ := exists_first spaced
    by_cases early : 40 ∈ before
    · exact ⟨_,.late marked first early⟩
    · have inside : 40 ∈ after := by
        have member := not_not.mp plain
        rw [first.1,List.mem_append,List.mem_append] at member
        have noParen : 40 ∉ ascii "l " := by decide
        exact (member.resolve_left early).resolve_left noParen
      obtain ⟨kept,rest,rfl,outside⟩ := List.eq_append_cons_of_mem inside
      exact ⟨_,.spaced marked first (by simp [early,outside])⟩
  · subst split
    cases front with
    | nil => exact ⟨_,.tail marked spaced⟩
    | cons head kept => exact ⟨_,.headless marked spaced absent⟩

theorem keeps_iff {name : List UInt8} (bound : name.length < maxSize) (kept : List UInt8) :
    Keeps compiler name kept ↔ shorten compiler name = kept := by
  refine ⟨Keeps.shorten bound,?_⟩
  rintro rfl
  obtain ⟨kept,keeps⟩ : ∃ kept, Keeps compiler name kept := exists_keeps name
  rwa [keeps.shorten bound]

theorem styles_apart : ∀ style ∈ funcStyleArray, ∀ other ∈ funcStyleArray, style <+: other → style = other := by
  decide

theorem styles_nonempty : ∀ style ∈ funcStyleArray, 0 < style.length := by decide

theorem bare_iff (text bare : List UInt8) : Bare text bare ↔ withoutStyle text = bare := by
  cases found : funcStyleArray.find? fun v => find text v = 0 with
  | none =>
    have absent : ∀ style ∈ funcStyleArray, ¬style <+: text := fun style member begins => by
      have missed := List.find?_eq_none.mp found style member
      exact missed (decide_eq_true ((find_zero_iff text style).mpr begins))
    have same : withoutStyle text = text := by simp [withoutStyle,stringViewArrayHas,found]
    rw [same]
    constructor
    · rintro (⟨style,member,rfl⟩ | ⟨-,rfl⟩)
      · exact absurd (List.prefix_append style bare) (absent style member)
      · rfl
    · rintro rfl
      exact .inr ⟨absent,rfl⟩
  | some style =>
    have member := List.mem_of_find?_eq_some found
    have begins := (find_zero_iff text style).mp (by simpa using List.find?_some found)
    have dropped : withoutStyle text = text.drop style.length := by
      simp [withoutStyle,stringViewArrayHas,found,List.length_pos_iff.mp (styles_nonempty style member)]
    rw [dropped]
    constructor
    · rintro (⟨other,member',rfl⟩ | ⟨absent,-⟩)
      · have same : style = other := by
          rcases List.prefix_or_prefix_of_prefix begins (List.prefix_append other bare) with within | within
          · exact styles_apart style member other member' within
          · exact (styles_apart other member' style member within).symm
        rw [same,List.drop_left]
      · exact absurd begins (absent style member)
    · rintro rfl
      exact .inl ⟨style,member,(List.prefix_iff_eq_append.mp begins).symm⟩

/-- The name of a function is what is left of its printed name. -/
theorem getFuncName_iff (printed : Printed compiler) (bare : List UInt8) :
    getFuncName compiler printed.signature = bare ↔ Leaves compiler printed.name bare := by
  have bound : printed.name.length < maxSize := by
    have total := congrArg List.length printed.first.1
    simp only [List.length_append] at total
    have := printed.bound
    omega
  rw [getFuncName,qualifiedNameOfImpl,intermediate_printed,← bare_iff]
  constructor
  · exact fun stripped => ⟨_,(keeps_iff bound _).mpr rfl,stripped⟩
  · rintro ⟨kept,keeps,stripped⟩
    rwa [keeps.shorten bound]

/-- Different names with one key. -/
def Collision (first second : List UInt8) : Prop := first ≠ second ∧ md5Hash32 first = md5Hash32 second

variable {env : TypeEnv}

def registered (router : RpcRouter env) (func : Printed compiler) (handler : Handler env) :
    Except (List UInt8) Unit × RpcRouter env :=
  perform router (.registerHandler (getFuncName compiler func.signature) handler)

def Free (history : List (Operation env)) (func : Printed compiler) : Prop :=
  (after history).mapInvokers (getKey compiler func.signature) = none

/-- Two functions have different names. Only because of a collision does the registration of the one
throw when it follows that of the other, a call of the one reach the handler of the other when both are
registered, or any handler when only the other is. -/
structure Distinguished (env : TypeEnv) (one two : Printed compiler) : Prop where
  names : getFuncName compiler one.signature ≠ getFuncName compiler two.signature
  registers : ∀ (history : List (Operation env)) (first second : Handler env), Free history one → Free history two →
    ∀ what, (registered (registered (after history) one first).2 two second).1 = .error what →
      Collision (getFuncName compiler one.signature) (getFuncName compiler two.signature)
  reaches : ∀ (history : List (Operation env)) (first second : Handler env), Free history one → Free history two →
    ∀ handler, (registered (registered (after history) one first).2 two second).2.mapInvokers
      (getKey compiler two.signature) = some handler →
        handler = second ∨ Collision (getFuncName compiler one.signature) (getFuncName compiler two.signature)
  alone : ∀ (history : List (Operation env)) (first : Handler env), Free history one → Free history two →
    ∀ handler, (registered (after history) one first).2.mapInvokers (getKey compiler two.signature) = some handler →
      Collision (getFuncName compiler one.signature) (getFuncName compiler two.signature)

theorem Free.unnamed {history : List (Operation env)} {func : Printed compiler} (free : Free history func) :
    ((after history).key2funcName (getKey compiler func.signature)).isSome = false := by
  have same := (after_refines history).taken (getKey compiler func.signature)
  rw [same,← Option.isSome_map,← (after_refines history).invokers,free]
  rfl

theorem registered_free (router : RpcRouter env) (func : Printed compiler) (handler : Handler env)
    (free : (router.key2funcName (getKey compiler func.signature)).isSome = false) :
    (registered router func handler).1 = .ok () ∧ ∀ key,
      (registered router func handler).2.mapInvokers key =
        (if key = getKey compiler func.signature then some handler else router.mapInvokers key) ∧
      (registered router func handler).2.key2funcName key =
        if key = getKey compiler func.signature then some (getFuncName compiler func.signature)
        else router.key2funcName key := by
  rw [registered,perform_free _ _ _ free]
  exact ⟨rfl,fun key => ⟨Function.update_apply _ _ _ _,Function.update_apply _ _ _ _⟩⟩

theorem distinguished_of_names {one two : Printed compiler}
    (differ : getFuncName compiler one.signature ≠ getFuncName compiler two.signature) :
    Distinguished env one two := by
  by_cases keys : getKey compiler one.signature = getKey compiler two.signature
  · have collision : Collision (getFuncName compiler one.signature) (getFuncName compiler two.signature) := ⟨differ,keys⟩
    exact ⟨differ,fun _ _ _ _ _ _ _ => collision,fun _ _ _ _ _ _ _ => .inr collision,fun _ _ _ _ _ _ => collision⟩
  -- The first registration leaves the key of the second one free.
  have step (history : List (Operation env)) (first second : Handler env) (freeOne : Free history one)
      (freeTwo : Free history two) :=
    registered_free (registered (after history) one first).2 two second (by
      rw [((registered_free _ one first freeOne.unnamed).2 _).2,if_neg (Ne.symm keys)]
      exact freeTwo.unnamed)
  constructor
  case names => exact differ
  case registers =>
    intro history first second freeOne freeTwo what threw
    rw [(step history first second freeOne freeTwo).1] at threw
    cases threw
  case reaches =>
    intro history first second freeOne freeTwo handler held
    rw [((step history first second freeOne freeTwo).2 _).1,if_pos rfl] at held
    exact .inl (Option.some.inj held).symm
  case alone =>
    intro history first freeOne freeTwo handler held
    rw [((registered_free _ one first freeOne.unnamed).2 _).1,if_neg (Ne.symm keys),freeTwo] at held
    cases held

def SameRest (compiler : Compiler) (name other : List UInt8) : Prop :=
  ∃ bare, Leaves compiler name bare ∧ Leaves compiler other bare

/-- Two functions are distinguished exactly when different texts are left of their printed names. -/
theorem distinguished_iff (env : TypeEnv) (one two : Printed compiler) :
    Distinguished env one two ↔ ¬SameRest compiler one.name two.name := by
  have same : SameRest compiler one.name two.name ↔
      getFuncName compiler one.signature = getFuncName compiler two.signature := by
    simp only [SameRest,← getFuncName_iff]
    exact ⟨fun ⟨_,left,right⟩ => left.trans right.symm,fun equal => ⟨_,equal,rfl⟩⟩
  rw [same]
  exact ⟨fun distinguished => distinguished.names,distinguished_of_names⟩

theorem sameRest_of_keeps {name other kept : List UInt8} (one : Keeps compiler name kept)
    (two : Keeps compiler other kept) : SameRest compiler name other :=
  ⟨withoutStyle kept,⟨kept,one,(bare_iff _ _).mpr rfl⟩,kept,two,(bare_iff _ _).mpr rfl⟩

/-- The namespaces around the last anonymous one are lost. -/
theorem scopes_same {name other scope outer inner : List UInt8}
    (one : Last compiler.anonymousNamespace name scope inner)
    (two : Last compiler.anonymousNamespace other outer inner) : SameRest compiler name other :=
  sameRest_of_keeps (.marked one) (.marked two)

/-- Of a name with a parenthesis the first character and all from the parenthesis on are lost. -/
theorem parenthesis_same {one two : UInt8} {kept tail rest : List UInt8}
    (unmarked : ¬compiler.anonymousNamespace <:+: one::(kept ++ 40::tail) ∧
      ¬compiler.anonymousNamespace <:+: two::(kept ++ 40::rest))
    (unspaced : ¬ascii "l " <:+: one::(kept ++ 40::tail) ∧ ¬ascii "l " <:+: two::(kept ++ 40::rest))
    (plain : 40 ∉ one::kept ∧ 40 ∉ two::kept) :
    SameRest compiler (one::(kept ++ 40::tail)) (two::(kept ++ 40::rest)) :=
  sameRest_of_keeps (.headless unmarked.1 unspaced.1 plain.1) (.headless unmarked.2 unspaced.2 plain.2)

structure Plain (compiler : Compiler) (name : List UInt8) : Prop where
  unmarked : ¬compiler.anonymousNamespace <:+: name
  flat : 40 ∉ name
  unstyled : ∀ style ∈ funcStyleArray, ¬style <+: name

theorem Plain.getFuncName {printed : Printed compiler} (plain : Plain compiler printed.name) :
    getFuncName compiler printed.signature = printed.name :=
  (getFuncName_iff printed _).mpr ⟨_,.whole plain.unmarked plain.flat,.inr ⟨plain.unstyled,rfl⟩⟩

theorem plain_distinguished (env : TypeEnv) {one two : Printed compiler} (plain : Plain compiler one.name)
    (other : Plain compiler two.name) (differ : one.name ≠ two.name) : Distinguished env one two :=
  distinguished_of_names (by rwa [plain.getFuncName,other.getFuncName])

def gccBefore : List UInt8 := ascii "constexpr auto rest_rpc::detail::qualified_name_of_impl() [with auto "

theorem gcc_keyword : First Compiler.gcc.keyword (gccBefore ++ (Compiler.gcc.keyword ++ [])) gccBefore [] :=
  first_of_firstIndex (by decide +kernel)

def gccPrinted (name : List UInt8) (named : name ≠ []) (bare : name.head? ≠ some 38) (short : name.length < 2^32) :
    Printed .gcc where
  signature := gccBefore ++ (Compiler.gcc.keyword ++ (name ++ [93]))
  before := gccBefore
  ampersand := false
  name := name
  suffix := [93]
  first := gcc_keyword.append _
  sized := rfl
  named := named
  bare := fun _ => bare
  bound := by
    have sizes : gccBefore.length + Compiler.gcc.keyword.length < 100 := by decide +kernel
    simp only [List.length_append,List.length_singleton,maxSize]
    omega

def fVoidInt : Printed .gcc := gccPrinted (ascii "f<void(int)>") (by decide) (by decide) (by decide)

def gVoidInt : Printed .gcc := gccPrinted (ascii "g<void(int)>") (by decide) (by decide) (by decide)

theorem functionTypes_same :
    fVoidInt.name ≠ gVoidInt.name ∧ (∀ env, ¬Distinguished env fVoidInt gVoidInt) ∧
      getFuncName .gcc fVoidInt.signature = ascii "<void" ∧ getFuncName .gcc gVoidInt.signature = ascii "<void" ∧
      ∀ (env : TypeEnv) (first second : Handler env),
        (registered (registered RpcRouter.new fVoidInt first).2 gVoidInt second).1 =
          .error (ascii "duplicate registration key !") := by
  have one : getFuncName .gcc fVoidInt.signature = ascii "<void" := by
    rw [getFuncName,qualifiedNameOfImpl,intermediate_printed]
    decide +kernel
  have two : getFuncName .gcc gVoidInt.signature = ascii "<void" := by
    rw [getFuncName,qualifiedNameOfImpl,intermediate_printed]
    decide +kernel
  refine ⟨by decide,fun _ distinguished => distinguished.names (one.trans two.symm),one,two,
    fun env first second => ?_⟩
  have held := ((registered_free RpcRouter.new fVoidInt first rfl).2 (getKey .gcc fVoidInt.signature)).2
  rw [if_pos rfl] at held
  have keys : md5Hash32 (getFuncName .gcc gVoidInt.signature) = getKey .gcc fVoidInt.signature := by
    rw [getKey,one,two]
  rw [registered,perform_taken _ _ _ (by rw [keys,held]; rfl)]

end RestRpc.FunctionName
