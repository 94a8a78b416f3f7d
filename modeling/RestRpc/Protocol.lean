import RestRpc.Octets

/-! The frame header of `rest_rpc_protocol.hpp` and its two byte-order passes.
A host is its byte order: `htonl` and `ntohl` reverse octets on a little-endian
host and do nothing on a big-endian one; `htonll` is the repository's own. -/
namespace RestRpc.Protocol
open Octets

def restMagicNum : UInt8 := 39

structure RestRpcHeader where
  magic : UInt8 := restMagicNum
  version : UInt8 := 0
  serializeType : UInt8 := 0
  msgType : UInt8 := 0
  functionId : UInt32 := 0
  seqNum : UInt64 := 0
  bodyLen : UInt64 := 0
  attachLength : UInt64 := 0
  deriving DecidableEq,Repr

/-- `sizeof(rest_rpc_header)`: four octets, one 32-bit and three 64-bit words. -/
def headerSize : Nat := 32

def store32 (host : ByteOrder) (value : UInt32) : List UInt8 := store host 4 value.toNat
def load32 (host : ByteOrder) (octets : List UInt8) : UInt32 := UInt32.ofNat (load host octets)
def store64 (host : ByteOrder) (value : UInt64) : List UInt8 := store host 8 value.toNat
def load64 (host : ByteOrder) (octets : List UInt8) : UInt64 := UInt64.ofNat (load host octets)

def htonl : ByteOrder → UInt32 → UInt32
  | .little,value => load32 .big (store32 .little value)
  | .big,value => value

def ntohl : ByteOrder → UInt32 → UInt32
  | .little,value => load32 .little (store32 .big value)
  | .big,value => value

def htonll (host : ByteOrder) (value : UInt64) : UInt64 :=
  ((htonl host (value &&& 0xFFFFFFFF).toUInt32).toUInt64 <<< 32) |||
    (htonl host (value >>> 32).toUInt32).toUInt64

def ntohll (host : ByteOrder) (value : UInt64) : UInt64 :=
  ((ntohl host (value &&& 0xFFFFFFFF).toUInt32).toUInt64 <<< 32) |||
    (ntohl host (value >>> 32).toUInt32).toUInt64

def prepareForSend (host : ByteOrder) (header : RestRpcHeader) : RestRpcHeader :=
  {header with
    functionId := htonl host header.functionId
    seqNum := htonll host header.seqNum
    bodyLen := htonll host header.bodyLen
    attachLength := htonll host header.attachLength}

def parseRecieved (host : ByteOrder) (header : RestRpcHeader) : RestRpcHeader :=
  {header with
    functionId := ntohl host header.functionId
    seqNum := ntohll host header.seqNum
    bodyLen := ntohll host header.bodyLen
    attachLength := ntohll host header.attachLength}

def RestRpcHeader.withBodyLen (header : RestRpcHeader) (size : Nat) : RestRpcHeader :=
  {header with bodyLen := UInt64.ofNat size}

@[simp] theorem withBodyLen_magic (header : RestRpcHeader) (size : Nat) :
    (header.withBodyLen size).magic = header.magic := rfl

@[simp] theorem withBodyLen_msgType (header : RestRpcHeader) (size : Nat) :
    (header.withBodyLen size).msgType = header.msgType := rfl

@[simp] theorem withBodyLen_functionId (header : RestRpcHeader) (size : Nat) :
    (header.withBodyLen size).functionId = header.functionId := rfl

@[simp] theorem withBodyLen_bodyLen (header : RestRpcHeader) (size : Nat) :
    (header.withBodyLen size).bodyLen = UInt64.ofNat size := rfl

def image (host : ByteOrder) (header : RestRpcHeader) : List UInt8 :=
  [header.magic,header.version,header.serializeType,header.msgType] ++
    (store32 host header.functionId ++ (store64 host header.seqNum ++
      (store64 host header.bodyLen ++ store64 host header.attachLength)))

def view (host : ByteOrder) (octets : List UInt8) : RestRpcHeader where
  magic := octets.getD 0 0
  version := octets.getD 1 0
  serializeType := octets.getD 2 0
  msgType := octets.getD 3 0
  functionId := load32 host ((octets.drop 4).take 4)
  seqNum := load64 host ((octets.drop 8).take 8)
  bodyLen := load64 host ((octets.drop 16).take 8)
  attachLength := load64 host ((octets.drop 24).take 8)

@[simp] theorem store32_length (host : ByteOrder) (value : UInt32) :
    (store32 host value).length = 4 := by simp [store32]

@[simp] theorem store64_length (host : ByteOrder) (value : UInt64) :
    (store64 host value).length = 8 := by simp [store64]

@[simp] theorem image_length (host : ByteOrder) (header : RestRpcHeader) :
    (image host header).length = headerSize := by simp [image,headerSize]

@[simp] theorem load32_store32 (host : ByteOrder) (value : UInt32) :
    load32 host (store32 host value) = value := by
  rw [load32,store32,load_store host 4 _ (by have := value.toNat_lt; omega),UInt32.ofNat_toNat]

@[simp] theorem load64_store64 (host : ByteOrder) (value : UInt64) :
    load64 host (store64 host value) = value := by
  rw [load64,store64,load_store host 8 _ (by have := value.toNat_lt; omega),UInt64.ofNat_toNat]

@[simp] theorem store32_load32 (host : ByteOrder) (octets : List UInt8) (size : octets.length = 4) :
    store32 host (load32 host octets) = octets := by
  have bound := load_lt host octets
  rw [size] at bound
  have word : (load32 host octets).toNat = load host octets := by
    simpa [load32] using Nat.mod_eq_of_lt bound
  rw [store32,word,← size,store_load]

/-- What one host sees of a header laid out by another: octets survive, words
are read in the reader's order. -/
theorem view_image_words (sender receiver : ByteOrder) (header : RestRpcHeader) :
    view receiver (image sender header) =
      {header with
        functionId := load32 receiver (store32 sender header.functionId)
        seqNum := load64 receiver (store64 sender header.seqNum)
        bodyLen := load64 receiver (store64 sender header.bodyLen)
        attachLength := load64 receiver (store64 sender header.attachLength)} := by
  cases header
  simp [view,image,List.drop_append,List.drop_eq_nil_of_le,List.take_of_length_le]

@[simp] theorem view_image (host : ByteOrder) (header : RestRpcHeader) :
    view host (image host header) = header := by
  rw [view_image_words]
  simp

/-! The halves of a 64-bit word, which the repository's `htonll` exchanges. -/

def lowHalf (value : UInt64) : UInt32 := (value &&& 0xFFFFFFFF).toUInt32
def highHalf (value : UInt64) : UInt32 := (value >>> 32).toUInt32
def join (high low : UInt32) : UInt64 := (high.toUInt64 <<< 32) ||| low.toUInt64

theorem lowHalf_toNat (value : UInt64) : (lowHalf value).toNat = value.toNat % 2^32 := by
  have mask : value.toNat &&& 4294967295 = value.toNat % 2^32 := Nat.and_two_pow_sub_one_eq_mod _ 32
  rw [lowHalf,UInt64.toNat_toUInt32,UInt64.toNat_and,show (0xFFFFFFFF : UInt64).toNat = 4294967295 from rfl,
    mask,Nat.mod_mod]

theorem highHalf_toNat (value : UInt64) : (highHalf value).toNat = value.toNat / 2^32 := by
  have bound := value.toNat_lt
  simp [highHalf,Nat.shiftRight_eq_div_pow]
  omega

theorem join_toNat (high low : UInt32) : (join high low).toNat = high.toNat * 2^32 + low.toNat := by
  have hb := high.toNat_lt
  have lb := low.toNat_lt
  have shifted : high.toNat <<< 32 % 2^64 = high.toNat <<< 32 := by
    rw [Nat.shiftLeft_eq]
    exact Nat.mod_eq_of_lt (by omega)
  simp only [join,UInt64.toNat_or,UInt64.toNat_shiftLeft,UInt32.toNat_toUInt64]
  rw [show (32 : UInt64).toNat % 64 = 32 from rfl,shifted,← Nat.shiftLeft_add_eq_or_of_lt lb,Nat.shiftLeft_eq]

theorem join_halves (value : UInt64) : join (highHalf value) (lowHalf value) = value := by
  apply UInt64.toNat_inj.mp
  rw [join_toNat,highHalf_toNat,lowHalf_toNat]
  omega

@[simp] theorem lowHalf_join (high low : UInt32) : lowHalf (join high low) = low := by
  apply UInt32.toNat_inj.mp
  have lb := low.toNat_lt
  rw [lowHalf_toNat,join_toNat]
  omega

@[simp] theorem highHalf_join (high low : UInt32) : highHalf (join high low) = high := by
  apply UInt32.toNat_inj.mp
  have lb := low.toNat_lt
  rw [highHalf_toNat,join_toNat]
  omega

end RestRpc.Protocol
