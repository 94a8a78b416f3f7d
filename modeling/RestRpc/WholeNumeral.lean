import RestRpc.ArgumentConversion

/-! Which byte strings `unpack` takes for an integer. `std::from_chars` stops behind the numeral that
begins them and returns where it stopped; only its error code is looked at. -/
namespace RestRpc.WholeNumeral
open Octets Chunks Numeral Md5 Codec IntegerTuples Router Connection Client Framing Call CallRoundTrip Dispatch
open ArgumentPassing ArgumentConversion

variable {env : TypeEnv}

def IsNumeral (type : IntegralType) (octets : List UInt8) (value : type.Value) : Prop :=
  Denotes type.signed octets value.val

structure Strict (sp : StructPack env) (type : IntegralType) (data : Text) : Prop where
  returns : ∀ value, unpack sp (.integral type) data = .ok value ↔ IsNumeral type data.octets value
  throws : (∀ value, ¬IsNumeral type data.octets value) →
    unpack sp (.integral type) data = .error (ascii "unpack failed: Args not match!")

/-- A numeral of the type's range begins the octets, and behind it comes something else than a digit. -/
def Continued (type : IntegralType) (octets : List UInt8) : Prop :=
  ∃ numeral octet rest, ∃ value : type.Value,
    octets = numeral ++ octet::rest ∧ IsNumeral type numeral value ∧ isDigit octet = false

theorem lower_neg (type : IntegralType) : decide (type.lower < 0) = type.signed := by
  rcases type with ⟨_ | _,_ | _ | _ | _⟩ <;> decide

theorem readsNumeral_iff (type : IntegralType) (data : Text) (value : type.Value) :
    ReadsNumeral type data value ↔ IsNumeral type data.octets value ∨
      ∃ numeral octet rest, data.octets = numeral ++ octet::rest ∧ IsNumeral type numeral value ∧
        isDigit octet = false := by
  rw [ReadsNumeral,readInt_iff,lower_neg]
  constructor
  · rintro ⟨numeral,rest,split,denotes,stops,-⟩
    cases rest with
    | nil =>
      rw [List.append_nil] at split
      exact .inl (by rwa [IsNumeral,split])
    | cons octet rest => exact .inr ⟨numeral,octet,rest,split,denotes,stops octet rfl⟩
  · rintro (denotes | ⟨numeral,octet,rest,split,denotes,other⟩)
    · exact ⟨data.octets,[],(List.append_nil _).symm,denotes,by simp,value.property⟩
    · exact ⟨numeral,octet::rest,split,denotes,by simp [other],value.property⟩

theorem not_isNumeral_continued (type : IntegralType) (numeral : List UInt8) (octet : UInt8) (rest : List UInt8)
    (value other : type.Value) (denotes : IsNumeral type numeral value) (foreign : isDigit octet = false) :
    ¬IsNumeral type (numeral ++ octet::rest) other := by
  intro whole
  have digit := whole.tail_digits octet (by simp [List.tail_append_of_ne_nil denotes.ne_nil])
  rw [foreign] at digit
  cases digit

theorem unpackIntegral_throws {type : IntegralType} {data : Text}
    (none : ∀ value, unpackIntegral type data ≠ .ok value) :
    unpackIntegral type data = .error (ascii "unpack failed: Args not match!") := by
  cases read : readInt type.lower type.upper data.octets with
  | error refusal => simp only [unpackIntegral,read]
  | ok got => exact absurd ((unpackIntegral_iff type data ⟨got,readInt_range _ _ _ _ read⟩).mpr read) (none _)

theorem numerals_iff (type : IntegralType) (data : Text) :
    (∀ value, ReadsNumeral type data value ↔ IsNumeral type data.octets value) ↔ ¬Continued type data.octets := by
  constructor
  · rintro numerals ⟨numeral,octet,rest,value,split,denotes,foreign⟩
    have read := (readsNumeral_iff type data value).mpr (.inr ⟨numeral,octet,rest,split,denotes,foreign⟩)
    have whole := (numerals value).mp read
    rw [split] at whole
    exact not_isNumeral_continued type numeral octet rest value value denotes foreign whole
  · intro ends value
    rw [readsNumeral_iff]
    refine or_iff_left_of_imp ?_
    rintro ⟨numeral,octet,rest,split,denotes,foreign⟩
    exact absurd ⟨numeral,octet,rest,value,split,denotes,foreign⟩ ends

/-- `unpack` is strict exactly on what no numeral of the type begins or what is one as a whole. -/
theorem strict_iff (sp : StructPack env) (type : IntegralType) (data : Text) :
    Strict sp type data ↔ ¬Continued type data.octets := by
  rw [← numerals_iff type data]
  constructor
  · intro strict value
    exact (unpack_integral_iff type data value).symm.trans (strict.returns value)
  · intro numerals
    have returns (value : type.Value) :
        unpack sp (.integral type) data = .ok value ↔ IsNumeral type data.octets value :=
      (unpack_integral_iff type data value).trans (numerals value)
    exact ⟨returns,fun foreign => unpackIntegral_throws fun value read => foreign value ((returns value).mp read)⟩

def passed (calls : List (Invocation env)) : List ((params : List (CppType env)) × Arguments params) :=
  calls.map fun call => ⟨call.params,call.args⟩

theorem passed_served (sp : StructPack env) (router : RpcRouter env) (cfg : Config) (key : UInt32)
    (handler : Handler env) (registered : router.mapInvokers key = some handler) (thread : Nat → Meanwhile)
    (up : Transport UInt8) (data : Text) :
    passed (serve sp router cfg thread (up.cut (callImpl cfg (callHeader key) data))).2 =
      ((arguments sp data handler.signature.params).toOption.map (Sigma.mk handler.signature.params)).toList := by
  rw [served_calls sp router cfg key handler registered thread]
  cases arguments sp data handler.signature.params with
  | error what => rfl
  | ok args => rfl

/-- A function of one integer is invoked with what the body of the request denotes, under the same
condition: nothing else looks at the body. -/
theorem request_iff (sp : StructPack env) (router : RpcRouter env) (cfg : Config) (key : UInt32)
    (handler : Handler env) (registered : router.mapInvokers key = some handler) (type : IntegralType)
    (one : handler.signature.params = [.integral type]) (thread : Nat → Meanwhile) (up : Transport UInt8)
    (data : Text) :
    (∀ value : type.Value, passed (serve sp router cfg thread (up.cut (callImpl cfg (callHeader key) data))).2 =
      [⟨[.integral type],(value,())⟩] ↔ IsNumeral type data.octets value) ↔ ¬Continued type data.octets := by
  rw [← numerals_iff type data]
  refine forall_congr' fun value => iff_congr ?_ Iff.rfl
  refine Iff.trans ?_ ((alone_iff sp (.integral type) data value).trans (unpack_integral_iff type data value))
  change _ ↔ arguments sp data [.integral type] = .ok (value,())
  rw [passed_served sp router cfg key handler registered thread,one]
  cases arguments sp data [.integral type] with
  | error what =>
    constructor
    · intro same
      cases same
    · intro same
      cases same
  | ok args =>
    constructor
    · intro same
      have lone := eq_of_heq (Sigma.mk.inj (List.cons.inj same).1).2
      rw [lone]
    · intro same
      rw [Except.ok.inj same]
      rfl

theorem response_iff (sp : StructPack env) (header : Protocol.RestRpcHeader) (body : List UInt8) (type : IntegralType)
    (data : Text) (viewed : payload header body = some data) :
    (∀ value : type.Value, Client.afterBody sp (some (.integral type)) header (some body) =
      .returned {ec := resultCode body,value := some value} ↔ IsNumeral type data.octets value) ↔
        ¬Continued type data.octets := by
  rw [← numerals_iff type data]
  refine forall_congr' fun value => iff_congr ?_ Iff.rfl
  have reads : unpack sp (.integral type) data = .ok value ↔ ReadsNumeral type data value :=
    unpack_integral_iff type data value
  refine Iff.trans ?_ reads
  simp only [Client.afterBody,viewed]
  cases unpack sp (.integral type) data with
  | error what => simp
  | ok got =>
    simp only [AfterBody.returned.injEq,CallResult.mk.injEq,true_and]
    exact ⟨fun same => congrArg Except.ok (Option.some.inj same),fun same => congrArg some (Except.ok.inj same)⟩

def twelve : IntegralType.Value ⟨true,.w32⟩ := ⟨12,by decide⟩

/-- `unpack<int>("12abc")` is 12, and 12 is what `round1` gets from a request with that body. -/
theorem twelve_continued :
    let data := Text.view (ascii "12abc")
    let key := md5Hash32 (ascii "round1")
    ¬Strict (integerTuples : StructPack noStruct) ⟨true,.w32⟩ data ∧
      Received integerTuples (serving key round1Handler) ⟨.little,false⟩ key round1Handler (fun _ => {}) whole data (twelve,()) := by
  intro data key
  have read : ReadsNumeral ⟨true,.w32⟩ data twelve := rfl
  constructor
  · intro strict
    have numeral := (strict.returns twelve).mp ((unpack_integral_iff _ _ _).mpr read)
    exact absurd (numeral.tail_digits 97 (by decide)) (by decide)
  · unfold Received
    rw [served_calls _ _ _ _ round1Handler (serving_registered _ _)]
    rfl

end RestRpc.WholeNumeral
