import RestRpc.ArgumentTypes
import RestRpc.ArgumentPassing

/-! Which calls give the function the values that `args_tuple(args...)` has in the local call.
The arguments travel as a numeral, as text or as a tuple, by their own types; the server takes what
comes for one of the three by the parameter types. -/
namespace RestRpc.ArgumentConversion
open Octets Chunks Numeral Md5 Codec IntegerTuples Router Connection Client Framing Call CallRoundTrip Dispatch
open ArgumentPassing
open ArgumentTypes hiding getBuffer

variable {env : TypeEnv}

def ReadsNumeral (type : IntegralType) (text : Text) (value : type.Value) : Prop :=
  readInt type.lower type.upper text.octets = .ok value.val

/-- The type lists are the same, and the conversions keep what struct_pack keeps of the values. -/
def SameMembers (pack : ArgumentPack env) (params : List (CppType env)) (constructed : Arguments params)
    (args : List (Operand env)) : Prop :=
  pack.typeList (args.map (·.type)) = pack.typeList (params.map .object) ∧
    args.map pack.content = (operands params constructed).map pack.content

def NumeralArrives (pack : ArgumentPack env) (type : IntegralType) (value : type.Value) :
    List (Argument env) → Prop
  | [arg] =>
    match arg.operand.kind with
    | .integer _ number => arg.passing = .prvalue ∧ type.lower ≤ number.val ∧ number.val ≤ type.upper
    | .floating name number =>
      arg.passing = .prvalue ∧ ReadsNumeral type (env.floats.toString name number) value
    | .text _ => False
    | .object _ _ => ∃ text, pack.serialize [arg.operand] = .ok text ∧ ReadsNumeral type text value
  | _ => False

def FloatingArrives (pack : ArgumentPack env) (name : env.floats.Name) (value : env.floats.Value name) :
    List (Argument env) → Prop
  | [arg] =>
    match arg.operand.kind with
    | .integer _ _ => arg.passing = .prvalue
    | .floating other number =>
      arg.passing = .prvalue ∧ env.floats.fromChars name (env.floats.toString other number).octets = .ok value
    | .text _ => False
    | .object _ _ => ∃ text, pack.serialize [arg.operand] = .ok text ∧ env.floats.fromChars name text.octets = .ok value
  | _ => False

def TextArrives (pack : ArgumentPack env) (text : Text) : List (Argument env) → Prop
  | [] => True
  | [arg] =>
    match arg.operand.kind with
    | .text _ => True
    | .object _ _ => pack.serialize [arg.operand] = .ok text
    | _ => False
  | _ => False

/-- For a parameter of another type or several parameters. -/
def TupleArrives (sp : StructPack env) (pack : ArgumentPack env) (params : List (CppType env))
    (constructed : Arguments params) : List (Argument env) → Prop
  | [] => False
  | [arg] =>
    match arg.packOne with
    | some text => sp.deserializeArgs params text = .ok constructed
    | none => SameMembers pack params constructed [arg.operand]
  | first::second::rest => SameMembers pack params constructed ((first::second::rest).map (·.operand))

/-- `unpack` does not compile for the types that are refused. -/
def LoneArrives (sp : StructPack env) (pack : ArgumentPack env) :
    (type : CppType env) → type.Value → List (Argument env) → Prop
  | .integral type,value,args => NumeralArrives pack type value args
  | .bool,_,_ => False
  | .character .char,value,args => NumeralArrives pack CharacterType.char.integral value args
  | .character _,_,_ => False
  | .floating name,value,args => FloatingArrives pack name value args
  | .string,text,args => TextArrives pack text args
  | .stringView,text,args => TextArrives pack text args
  | .struct name,object,args => TupleArrives sp pack [.struct name] (object,()) args

def Arrives (sp : StructPack env) (pack : ArgumentPack env) :
    (params : List (CppType env)) → Arguments params → List (Argument env) → Prop
  | [],_,_ => True
  | [type],(value,_),args => LoneArrives sp pack type value args
  | first::second::params,constructed,args => TupleArrives sp pack (first::second::params) constructed args

/-- struct_pack on the arguments and the parameters of a call: it refuses an encoding with another
type list and an empty buffer, and reads what it keeps of the values from one with the same type
list. An encoding begins with the code of its type list. -/
structure Described (sp : StructPack env) (pack : ArgumentPack env) (params : List (CppType env))
    (args : List (Operand env)) : Prop where
  refuses : pack.typeList (args.map (·.type)) ≠ pack.typeList (params.map .object) → ∀ text got,
    pack.serialize args = .ok text → sp.deserializeArgs params text ≠ .ok got
  keeps : pack.typeList (args.map (·.type)) = pack.typeList (params.map .object) → ∀ text,
    pack.serialize args = .ok text → ∃ got, sp.deserializeArgs params text = .ok got ∧
      args.map pack.content = (operands params got).map pack.content
  distinct : ∀ type ∈ params, ∀ first second : type.Value,
    pack.content ⟨.object type,first⟩ = pack.content ⟨.object type,second⟩ → first = second
  nothing : params ≠ [] → ∀ got, sp.deserializeArgs params Text.empty ≠ .ok got
  coded : ∀ type id text, args.map (·.type) = [type] → type.fundamental = some id →
    pack.serialize args = .ok text → CodedAs [253,id,255] text.octets

def Received (sp : StructPack env) (router : RpcRouter env) (cfg : Config) (key : UInt32) (handler : Handler env)
    (thread : Nat → Meanwhile) (up : Transport UInt8) (buf : Text) (constructed : Arguments handler.signature.params) :
    Prop :=
  (serve sp router cfg thread (up.cut (callImpl cfg (callHeader key) buf))).2 =
    [⟨key,handler.signature.params,constructed,handler.makesContext constructed⟩]

variable {sp : StructPack env} {pack : ArgumentPack env}

theorem packOne_object (passing : Passing) (type : CppType env) (value : type.Value) :
    Argument.packOne ⟨passing,⟨.object type,value⟩⟩ =
      if basic : isBasic passing type = true then some (packOne type basic value) else none := by
  cases type <;> cases passing <;> rfl

/-- On arguments of the parameter types, the buffer is the one that `Client.getBuffer` describes. -/
theorem getBuffer_operands (passing : Passing) (types : List (CppType env)) (args : Arguments types)
    (same : pack.serialize (operands types args) = sp.serializeArgs types args) :
    ArgumentTypes.getBuffer pack ((operands types args).map (⟨passing,·⟩)) =
      Client.getBuffer sp passing types args := by
  match types,args with
  | [],_ => rfl
  | [type],(value,()) =>
    change ArgumentTypes.getBuffer pack [⟨passing,⟨.object type,value⟩⟩] = _
    rw [ArgumentTypes.getBuffer,packOne_object,getBuffer_lone]
    by_cases basic : isBasic passing type = true
    · rw [dif_pos basic,if_pos basic,packArgs,dif_pos basic]
    · rw [dif_neg basic,if_neg basic]
      exact same
  | first::second::types,(one,two,rest) =>
    change _ = sp.serializeArgs (first::second::types) (one,two,rest)
    rw [← same]
    simp [operands,ArgumentTypes.getBuffer,Function.comp_def]

/-- No number begins like the encoding of a tuple of one fundamental value. -/
theorem tuple_code_head : ∀ id ∈ fundamentalIds, ∀ more : Bool,
    (littleOctets 4 ((typesCode [253,id,255]).toNat + if more then 1 else 0)).head?.map begins = some false := by
  decide +kernel

theorem unpackIntegral_iff (type : IntegralType) (data : Text) (value : type.Value) :
    unpackIntegral type data = .ok value ↔ ReadsNumeral type data value := by
  cases read : readInt type.lower type.upper data.octets with
  | error refusal => simp [ReadsNumeral,unpackIntegral,read]
  | ok got =>
    have inside := readInt_range _ _ _ _ read
    simp only [ReadsNumeral,unpackIntegral,read,dif_pos inside]
    constructor
    · intro same
      exact congrArg (fun value : type.Value => Except.ok value.val) (Except.ok.inj same)
    · intro same
      exact congrArg Except.ok (Subtype.ext (Except.ok.inj same))

theorem unpack_integral_iff (type : IntegralType) (data : Text) (value : type.Value) :
    unpack sp (.integral type) data = .ok value ↔ ReadsNumeral type data value :=
  unpackIntegral_iff type data value

theorem readsNumeral_integer (type other : IntegralType) (number : other.Value) :
    ReadsNumeral type (integralText other number) (wrap type number.val) ↔
      type.lower ≤ number.val ∧ number.val ≤ type.upper := by
  unfold ReadsNumeral integralText
  constructor
  · intro read
    have same := readInt_intText_eq _ _ _ _ read
    rw [← same]
    exact (wrap type number.val).property
  · intro inside
    rw [readInt_intText _ _ _ inside.1 inside.2]
    exact congrArg (fun value : type.Value => Except.ok value.val) (wrap_value type ⟨number.val,inside⟩).symm

theorem Described.foreign {params : List (CppType env)} {operand : Operand env}
    (described : Described sp pack params [operand]) (fundamental : ∃ id, operand.type.fundamental = some id)
    (buf : Text) (serialized : pack.serialize [operand] = .ok buf) :
    ∃ octet rest, buf.octets = octet::rest ∧ begins octet = false := by
  obtain ⟨id,known⟩ := fundamental
  obtain ⟨more,code⟩ := described.coded operand.type id buf rfl known serialized
  have head := tuple_code_head id (fundamental_mem _ _ known) more
  rw [← code] at head
  cases shape : buf.octets with
  | nil => simp [shape] at head
  | cons octet rest => exact ⟨octet,rest,rfl,by simpa [shape] using head⟩

theorem Described.not_numeral {params : List (CppType env)} {operand : Operand env}
    (described : Described sp pack params [operand]) (fundamental : ∃ id, operand.type.fundamental = some id)
    (buf : Text) (serialized : pack.serialize [operand] = .ok buf) (type : IntegralType) (value : type.Value) :
    ¬ReadsNumeral type buf value := by
  obtain ⟨octet,rest,shape,foreign⟩ := described.foreign fundamental buf serialized
  simp only [begins,Bool.or_eq_false_iff,beq_eq_false_iff_ne] at foreign
  have refused := readInt_foreign type.lower type.upper octet rest foreign.1.1.1.1 foreign.1.1.1.2
  simp [ReadsNumeral,shape,refused]

theorem Described.not_floating {params : List (CppType env)} {operand : Operand env}
    (described : Described sp pack params [operand]) (fundamental : ∃ id, operand.type.fundamental = some id)
    (buf : Text) (serialized : pack.serialize [operand] = .ok buf) (name : env.floats.Name)
    (value : env.floats.Value name) : env.floats.fromChars name buf.octets ≠ .ok value := by
  intro read
  obtain ⟨octet,rest,shape,foreign⟩ := described.foreign fundamental buf serialized
  obtain ⟨first,head,begun⟩ := env.floats.begun name buf.octets value read
  rw [shape,List.head?_cons,Option.some.injEq] at head
  rw [← head,foreign] at begun
  cases begun

variable {conversions : Conversions env}

theorem numeral_iff {param : CppType env} (type : IntegralType) (value : type.Value) (args : List (Argument env))
    (described : Described sp pack [param] (args.map (·.operand))) (single : args.length ≤ 1)
    (converts : ∀ arg, args = [arg] → (∀ name object, arg.operand.kind ≠ .object name object) → ∃ element,
      arg.operand.toNumber (wrap type) (fun name value => conversions.arithmetic.toIntegral name value type) element =
        some value)
    (buf : Text) (packs : ArgumentTypes.getBuffer pack args = .ok buf) :
    ReadsNumeral type buf value ↔ NumeralArrives pack type value args := by
  match args with
  | [] =>
    cases packs
    simp [ReadsNumeral,NumeralArrives,Text.empty,readInt]
  | first::second::rest => simp at single
  | [arg] =>
    cases kind : arg.operand.kind with
    | integer other number =>
      obtain ⟨element,converted⟩ := converts arg rfl (by simp [kind])
      simp only [Operand.toNumber,kind] at converted
      obtain rfl := Option.some.inj converted
      -- A prvalue travels as a numeral, a variable as a tuple of one.
      by_cases passing : arg.passing = .prvalue
      · have sent := packed_alone (integralText other number) (by simp [Argument.packOne,kind,passing]) packs
        simp only [NumeralArrives,kind,passing,true_and,sent]
        exact readsNumeral_integer type other number
      · have sent := serialized (by simp [Argument.packOne,kind,passing]) packs
        have fundamental := (fundamental_or arg.operand).resolve_right (by simp [kind])
        have refused := described.not_numeral fundamental buf sent type (wrap type number.val)
        simp [NumeralArrives,kind,passing,refused]
    | floating other number =>
      by_cases passing : arg.passing = .prvalue
      · have sent := packed_alone (env.floats.toString other number) (by simp [Argument.packOne,kind,passing]) packs
        simp [NumeralArrives,kind,passing,sent]
      · have sent := serialized (by simp [Argument.packOne,kind,passing]) packs
        have fundamental := (fundamental_or arg.operand).resolve_right (by simp [kind])
        have refused := described.not_numeral fundamental buf sent type value
        simp [NumeralArrives,kind,passing,refused]
    | text text =>
      obtain ⟨element,converted⟩ := converts arg rfl (by simp [kind])
      simp only [Operand.toNumber,kind] at converted
      cases converted
    | object name object =>
      have sent := serialized (by simp [Argument.packOne,kind]) packs
      simp [NumeralArrives,kind,sent]

theorem floating_iff (name : env.floats.Name) (value : env.floats.Value name) (args : List (Argument env))
    (described : Described sp pack [.floating name] (args.map (·.operand)))
    (constructs : conversions.construct [.floating name] (args.map (·.operand)) = some (value,()))
    (buf : Text) (packs : ArgumentTypes.getBuffer pack args = .ok buf) :
    env.floats.fromChars name buf.octets = .ok value ↔ FloatingArrives pack name value args := by
  match args with
  | [] =>
    cases packs
    refine iff_of_false (fun read => ?_) id
    obtain ⟨octet,head,-⟩ := env.floats.begun name _ value read
    cases head
  | first::second::rest => simp [construct_several] at constructs
  | [arg] =>
    cases kind : arg.operand.kind with
    | integer other number =>
      have converted := element_of_lone constructs (by simp [kind])
      simp only [Conversions.converted,Operand.toNumber,kind] at converted
      obtain rfl := Option.some.inj converted
      by_cases passing : arg.passing = .prvalue
      · have sent := packed_alone (integralText other number) (by simp [Argument.packOne,kind,passing]) packs
        simp only [FloatingArrives,kind,passing,iff_true,sent]
        exact conversions.arithmetic.numeral name other number
      · have sent := serialized (by simp [Argument.packOne,kind,passing]) packs
        have fundamental := (fundamental_or arg.operand).resolve_right (by simp [kind])
        have refused := described.not_floating fundamental buf sent name
        simp [FloatingArrives,kind,passing,refused]
    | floating other number =>
      by_cases passing : arg.passing = .prvalue
      · have sent := packed_alone (env.floats.toString other number) (by simp [Argument.packOne,kind,passing]) packs
        simp [FloatingArrives,kind,passing,sent]
      · have sent := serialized (by simp [Argument.packOne,kind,passing]) packs
        have fundamental := (fundamental_or arg.operand).resolve_right (by simp [kind])
        have refused := described.not_floating fundamental buf sent name value
        simp [FloatingArrives,kind,passing,refused]
    | text text =>
      have converted := element_of_lone constructs (by simp [kind])
      simp only [Conversions.converted,Operand.toNumber,kind] at converted
      cases converted
    | object struct object =>
      have sent := serialized (by simp [Argument.packOne,kind]) packs
      simp [FloatingArrives,kind,sent]

theorem single_of_construct {param : CppType env} {value : param.Value} {args : List (Argument env)}
    (constructs : conversions.construct [param] (args.map (·.operand)) = some (value,())) : args.length ≤ 1 := by
  match args with
  | [] => simp
  | [_] => simp
  | first::second::rest => simp [construct_several] at constructs

theorem converted_of_construct {param : CppType env} {value : param.Value} {args : List (Argument env)}
    (constructs : conversions.construct [param] (args.map (·.operand)) = some (value,())) (arg : Argument env)
    (lone : args = [arg]) (other : ∀ name object, arg.operand.kind ≠ .object name object) :
    conversions.converted arg.operand param = some value := by
  subst lone
  exact element_of_lone constructs other

theorem text_iff {param : CppType env} {value : param.Value} {text : Text} (isText : asText param value = some text)
    (args : List (Argument env))
    (constructs : conversions.construct [param] (args.map (·.operand)) = some (value,()))
    (buf : Text) (packs : ArgumentTypes.getBuffer pack args = .ok buf) : buf = text ↔ TextArrives pack text args := by
  match args with
  | [] =>
    cases packs
    cases constructs
    simp [TextArrives,initial_text isText]
  | first::second::rest => simp [construct_several] at constructs
  | [arg] =>
    by_cases isObject : ∃ name object, arg.operand.kind = .object name object
    · obtain ⟨name,object,kind⟩ := isObject
      have sent := serialized (by simp [Argument.packOne,kind]) packs
      simp [TextArrives,kind,sent]
    · have converted := element_of_lone constructs fun name object kind => isObject ⟨name,object,kind⟩
      have kind := (converted_text isText converted).resolve_right isObject
      have sent := packed_alone text (by simp [Argument.packOne,kind]) packs
      simp [TextArrives,kind,sent]

theorem operands_injective {params : List (CppType env)}
    (distinct : ∀ type ∈ params, ∀ first second : type.Value,
      pack.content ⟨.object type,first⟩ = pack.content ⟨.object type,second⟩ → first = second)
    (one two : Arguments params)
    (same : (operands params one).map pack.content = (operands params two).map pack.content) : one = two := by
  induction params with
  | nil => rfl
  | cons param params ih =>
    obtain ⟨first,rest⟩ := one
    obtain ⟨second,others⟩ := two
    simp only [operands,List.map_cons,List.cons.injEq] at same
    have head := distinct param List.mem_cons_self first second same.1
    have tail := ih (fun type member => distinct type (List.mem_cons_of_mem _ member)) rest others same.2
    rw [head,tail]

theorem members_iff {params : List (CppType env)} {args : List (Operand env)}
    (described : Described sp pack params args) (constructed : Arguments params) (buf : Text)
    (serialized : pack.serialize args = .ok buf) :
    sp.deserializeArgs params buf = .ok constructed ↔ SameMembers pack params constructed args := by
  by_cases same : pack.typeList (args.map (·.type)) = pack.typeList (params.map .object)
  · obtain ⟨got,reads,kept⟩ := described.keeps same buf serialized
    simp only [SameMembers,same,true_and,reads,kept]
    constructor
    · intro equal
      rw [Except.ok.inj equal]
    · intro equal
      rw [operands_injective described.distinct got constructed equal]
  · have refused := described.refuses same buf constructed serialized
    simp [SameMembers,same,refused]

theorem tuple_iff {params : List (CppType env)} (nonempty : params ≠ []) (constructed : Arguments params)
    (args : List (Argument env)) (described : Described sp pack params (args.map (·.operand)))
    (buf : Text) (packs : ArgumentTypes.getBuffer pack args = .ok buf) :
    sp.deserializeArgs params buf = .ok constructed ↔ TupleArrives sp pack params constructed args := by
  match args with
  | [] =>
    cases packs
    simp [TupleArrives,described.nothing nonempty constructed]
  | [arg] =>
    cases basic : arg.packOne with
    | some text =>
      rw [packed_alone text basic packs]
      simp [TupleArrives,basic]
    | none =>
      simp only [TupleArrives,basic]
      exact members_iff described constructed buf (serialized basic packs)
  | first::second::rest => exact members_iff described constructed buf packs

theorem unpackArgs_iff (params : List (CppType env)) (buf : Text) (constructed : Arguments params) :
    unpackArgs sp params buf = .ok constructed ↔ sp.deserializeArgs params buf = .ok constructed := by
  unfold unpackArgs
  cases sp.deserializeArgs params buf with
  | error message => simp [Except.mapError]
  | ok got => simp [Except.mapError]

theorem arguments_iff (params : List (CppType env)) (constructed : Arguments params)
    (args : List (Argument env)) (described : Described sp pack params (args.map (·.operand)))
    (constructs : conversions.construct params (args.map (·.operand)) = some constructed)
    (buf : Text) (packs : ArgumentTypes.getBuffer pack args = .ok buf) :
    arguments sp buf params = .ok constructed ↔ Arrives sp pack params constructed args := by
  match params,constructed with
  -- The body of a function without parameters is not read.
  | [],_ => exact iff_of_true rfl trivial
  | [.integral type],(value,()) =>
    exact (alone_iff sp (.integral type) buf value).trans ((unpackIntegral_iff type buf value).trans
      (numeral_iff type value args described (single_of_construct constructs)
        (fun arg same other => ⟨_,converted_of_construct constructs arg same other⟩) buf packs))
  | [.bool],(value,()) => exact iff_of_false (by simp [arguments,isBasic,unpack,Except.map]) id
  | [.character .char],(value,()) =>
    exact (alone_iff sp (.character .char) buf value).trans
      ((unpackIntegral_iff CharacterType.char.integral buf value).trans
        (numeral_iff CharacterType.char.integral value args described (single_of_construct constructs)
          (fun arg same other => ⟨_,converted_of_construct constructs arg same other⟩) buf packs))
  | [.character .char8],(value,()) => exact iff_of_false (by simp [arguments,isBasic,unpack,Except.map]) id
  | [.character .char16],(value,()) => exact iff_of_false (by simp [arguments,isBasic,unpack,Except.map]) id
  | [.character .char32],(value,()) => exact iff_of_false (by simp [arguments,isBasic,unpack,Except.map]) id
  | [.character .wchar],(value,()) => exact iff_of_false (by simp [arguments,isBasic,unpack,Except.map]) id
  | [.floating name],(value,()) =>
    exact (alone_iff sp (.floating name) buf value).trans ((unpack_floating_iff name buf value).trans
      (floating_iff name value args described constructs buf packs))
  | [.string],(text,()) =>
    exact (alone_iff sp .string buf text).trans ((iff_of_eq (Except.ok.injEq buf text)).trans
      (text_iff rfl args constructs buf packs))
  | [.stringView],(text,()) =>
    exact (alone_iff sp .stringView buf text).trans ((iff_of_eq (Except.ok.injEq buf text)).trans
      (text_iff rfl args constructs buf packs))
  | [.struct name],(object,()) =>
    have nonempty : [CppType.struct name] ≠ [] := List.cons_ne_nil _ _
    exact (unpackArgs_iff [.struct name] buf (object,())).trans (tuple_iff nonempty _ args described buf packs)
  | first::second::rest,constructed =>
    exact (unpackArgs_iff (first::second::rest) buf constructed).trans
      (tuple_iff (by simp) constructed args described buf packs)

theorem served_calls (sp : StructPack env) (router : RpcRouter env) (cfg : Config) (key : UInt32)
    (handler : Handler env) (registered : router.mapInvokers key = some handler) (thread : Nat → Meanwhile)
    (up : Transport UInt8) (buf : Text) :
    (serve sp router cfg thread (up.cut (callImpl cfg (callHeader key) buf))).2 =
      match arguments sp buf handler.signature.params with
      | .error _ => []
      | .ok args => [⟨key,handler.signature.params,args,handler.makesContext args⟩] := by
  rw [serve_calls]
  exact route_calls sp router key buf handler registered

/-- The function receives the values of the local call exactly when they arrive: what is sent as a
numeral, as text or as a tuple is taken for the same, the numeral is in the parameter's range, and
the tuple has the type list of the parameters. -/
theorem received_iff_arrives (sp : StructPack env) (pack : ArgumentPack env)
    (conversions : Conversions env) (router : RpcRouter env) (cfg : Config) (key : UInt32)
    (handler : Handler env) (registered : router.mapInvokers key = some handler)
    (args : List (Argument env))
    (described : Described sp pack handler.signature.params (args.map (·.operand)))
    (constructed : Arguments handler.signature.params)
    (constructs : conversions.construct handler.signature.params (args.map (·.operand)) = some constructed)
    (buf : Text) (packs : ArgumentTypes.getBuffer pack args = .ok buf) (thread : Nat → Meanwhile)
    (up : Transport UInt8) :
    Received sp router cfg key handler thread up buf constructed ↔
      Arrives sp pack handler.signature.params constructed args := by
  rw [← arguments_iff _ constructed args described constructs buf packs,Received,
    served_calls sp router cfg key handler registered thread]
  cases arguments sp buf handler.signature.params with
  | error what => simp
  | ok got =>
    simp only [List.cons.injEq,Invocation.mk.injEq,heq_eq_eq,true_and,and_true,Except.ok.injEq]
    constructor
    · exact fun same => same.1
    · intro same
      exact ⟨same,by rw [same]⟩

/-- Integers that are sent as a tuple keep their types. -/
theorem integers_iff (pack : ArgumentPack env) (conversions : Conversions env)
    (params types : List IntegralType) (args : Arguments (types.map .integral : List (CppType env)))
    (constructed : Arguments (params.map .integral : List (CppType env)))
    (constructs : conversions.elements _ (operands _ args) = some constructed) :
    SameMembers pack _ constructed (operands _ args) ↔ types = params := by
  simp only [SameMembers,operands_types,typeList_integers]
  constructor
  · rintro ⟨same,-⟩
    exact tupleLiteral_injective types params same
  · rintro rfl
    rw [elements_integers] at constructs
    exact ⟨rfl,by rw [Option.some.inj constructs]⟩

def typed : List (Operand env) → Option ((types : List (CppType env)) × Arguments types)
  | [] => some ⟨[],()⟩
  | ⟨.object type,value⟩::rest => (typed rest).map fun others => ⟨type::others.1,(value,others.2)⟩
  | _::_ => none

theorem typed_operands (types : List (CppType env)) (args : Arguments types) :
    typed (operands types args : List (Operand env)) = some ⟨types,args⟩ := by
  induction types with
  | nil => rfl
  | cons type types ih =>
    obtain ⟨value,rest⟩ := args
    simp only [operands,typed,ih rest]
    rfl

def integerPack : ArgumentPack noStruct where
  serialize args :=
    match typed args with
    | some ⟨types,args⟩ => integerTuples.serializeArgs types args
    | none => .error (ascii "std::bad_alloc")
  structLiteral := Empty.elim
  Content := Option Int
  content operand :=
    match operand.kind with
    | .integer _ value => some value.val
    | _ => none

theorem integers_all (types : List IntegralType) :
    integers (types.map .integral : List (CppType env)) = some types := by
  induction types with
  | nil => rfl
  | cons type types ih => simp [integers,ih]

theorem integerPack_serialize (types : List IntegralType)
    (args : Arguments (types.map .integral : List (CppType noStruct))) :
    integerPack.serialize (operands _ args) = encoding (tupleLiteral types) (fields _ args) := by
  simp [integerPack,typed_operands,integerTuples,integers_all]

theorem payloadOf_other (literal other : List UInt8) (text : Text)
    (coded : text.octets.take 4 = littleOctets 4 (typesCode other).toNat)
    (apart : typesCode other ≠ typesCode literal) : ∃ what, payloadOf literal text = .error what := by
  have bound : (typesCode other).toNat < 256^4 := (typesCode other).toNat_lt
  have differ : littleValue (text.octets.take 4) ≠ (typesCode literal).toNat := by
    rw [coded,littleValue_octets,Nat.mod_eq_of_lt bound]
    exact fun same => apart (UInt32.toNat_inj.mp same)
  by_cases short : text.octets.length < 4
  · exact ⟨_,if_pos short⟩
  · exact ⟨ascii "invalid argument",by rw [payloadOf,if_neg short,if_pos differ]⟩

/-- Integers, as long as the codes of the two type lists are no collision. -/
theorem integerPack_described (params types : List IntegralType)
    (args : Arguments (types.map .integral : List (CppType noStruct)))
    (apart : types ≠ params → typesCode (tupleLiteral types) ≠ typesCode (tupleLiteral params)) :
    Described integerTuples integerPack (params.map .integral) (operands _ args) := by
  constructor
  case refuses =>
    rw [operands_types,typeList_integers,typeList_integers]
    intro differ text got serialized reads
    rw [integerPack_serialize] at serialized
    have other : types ≠ params := fun same => differ (by rw [same])
    obtain ⟨what,refused⟩ := payloadOf_other (tupleLiteral params) (tupleLiteral types) text
      (encoding_code _ _ text serialized) (apart other)
    simp [integerTuples,integers_all,refused,bind,Except.bind] at reads
  case keeps =>
    rw [operands_types,typeList_integers,typeList_integers]
    intro same text serialized
    obtain rfl := tupleLiteral_injective types params same
    refine ⟨args,integerTuples_lawful.args _ args text ?_,rfl⟩
    rw [← serialized,integerPack_serialize]
    simp [integerTuples,integers_all]
  case distinct =>
    intro type member first second same
    obtain ⟨integral,-,rfl⟩ := List.mem_map.mp member
    exact Subtype.ext (Option.some.inj same)
  case nothing =>
    intro _ got reads
    simp [integerTuples,integers_all,payloadOf,Text.empty,bind,Except.bind] at reads
  case coded =>
    intro type id text lone fundamental serialized
    rw [operands_types] at lone
    obtain ⟨object,objects,rfl⟩ := List.map_eq_singleton_iff.mp lone
    obtain ⟨integral,rfl,rfl⟩ := List.map_eq_singleton_iff.mp objects
    cases fundamental
    rw [integerPack_serialize] at serialized
    exact encoding_coded _ _ text serialized

abbrev int64 : CppType noStruct := .integral ⟨true,.w64⟩

def longSeven : IntegralType.Value ⟨true,.w64⟩ := ⟨7,by decide⟩

def noConversions : Conversions noStruct where
  arithmetic := ⟨nofun,nofun,nofun,nofun,nofun⟩
  element _ _ := none
  whole := nofun
  initial := nofun

def round1Handler : Handler noStruct where
  signature := ⟨[int32],some int32,false,false⟩
  compiles := rfl
  body := fun (i,()) => .returned i
  makesContext := fun _ => false

def serving (key : UInt32) (handler : Handler noStruct) : RpcRouter noStruct :=
  ⟨Function.update (fun _ => none) key (some handler),fun _ => none⟩

theorem serving_registered (key : UInt32) (handler : Handler noStruct) :
    (serving key handler).mapInvokers key = some handler := by simp [serving]

def whole : Transport UInt8 := ⟨fun octets => [octets],fun _ => List.flatten_singleton⟩

theorem round1_long_received :
    let key := md5Hash32 (ascii "round1")
    Received integerTuples (serving key round1Handler) ⟨.little,false⟩ key round1Handler (fun _ => {}) whole
      (integralText ⟨true,.w64⟩ longSeven) (wrap ⟨true,.w32⟩ 7,()) :=
  (received_iff_arrives integerTuples integerPack noConversions _ _ _ round1Handler (serving_registered _ _)
    [⟨.prvalue,⟨.object int64,longSeven⟩⟩]
    (integerPack_described [⟨true,.w32⟩] [⟨true,.w64⟩] (longSeven,()) fun _ => by decide +kernel)
    (wrap ⟨true,.w32⟩ 7,()) rfl _ rfl _ whole).mpr ⟨rfl,by decide,by decide⟩

def longOne : IntegralType.Value ⟨true,.w64⟩ := ⟨1,by decide⟩

def longPlusInt : List (Argument noStruct) :=
  [⟨.prvalue,⟨.object int64,longOne⟩⟩,⟨.prvalue,⟨.object int32,onePlusTwo.2.1⟩⟩]

theorem add_long_not_received :
    noConversions.construct [int32,int32] (longPlusInt.map (·.operand)) = some onePlusTwo ∧
    ∃ buf, ArgumentTypes.getBuffer integerPack longPlusInt = .ok buf ∧
      let key := md5Hash32 (ascii "add")
      ¬Received integerTuples (serving key addHandler) ⟨.little,false⟩ key addHandler (fun _ => {}) whole buf onePlusTwo := by
  refine ⟨rfl,?_⟩
  have refused : ((ArgumentTypes.getBuffer integerPack longPlusInt).map fun buf =>
      (arguments integerTuples buf [int32,int32]).toOption.isNone).toOption = some true := by decide +kernel
  cases packs : ArgumentTypes.getBuffer integerPack longPlusInt with
  | error what =>
    rw [packs] at refused
    cases refused
  | ok buf =>
    refine ⟨buf,rfl,fun received => ?_⟩
    unfold Received at received
    rw [served_calls _ _ _ _ addHandler (serving_registered _ _)] at received
    cases reads : arguments integerTuples buf [int32,int32] with
    | error what =>
      simp only [addHandler,reads] at received
      cases received
    | ok args =>
      rw [packs] at refused
      simp [Except.map,Except.toOption,reads] at refused

end RestRpc.ArgumentConversion
