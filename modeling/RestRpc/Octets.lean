import Mathlib.Data.Nat.ModEq
import Mathlib.Tactic.Ring
import Mathlib.Tactic.NormNum

/-! Memory images of fixed-width words on hosts of either byte order.
A word is a natural number below the width's bound; the image of a word and the
word of an image are inverse on one host, and reverse the bytes across hosts. -/
namespace RestRpc.Octets

inductive ByteOrder
  | little
  | big
  deriving DecidableEq,Repr

/-- The low `width` octets of a natural, least significant first. -/
def littleOctets : Nat → Nat → List UInt8
  | 0,_ => []
  | width+1,value => UInt8.ofNat value :: littleOctets width (value / 256)

def littleValue : List UInt8 → Nat
  | [] => 0
  | octet::rest => octet.toNat + 256 * littleValue rest

def store (order : ByteOrder) (width value : Nat) : List UInt8 :=
  match order with
  | .little => littleOctets width value
  | .big => (littleOctets width value).reverse

def load (order : ByteOrder) (octets : List UInt8) : Nat :=
  match order with
  | .little => littleValue octets
  | .big => littleValue octets.reverse

@[simp] theorem littleOctets_length (width value : Nat) :
    (littleOctets width value).length = width := by
  induction width generalizing value with
  | zero => rfl
  | succ width ih => simp [littleOctets,ih]

@[simp] theorem store_length (order : ByteOrder) (width value : Nat) :
    (store order width value).length = width := by
  cases order <;> simp [store]

theorem littleValue_octets (width value : Nat) :
    littleValue (littleOctets width value) = value % 256^width := by
  induction width generalizing value with
  | zero => simp [littleOctets,littleValue,Nat.mod_one]
  | succ width ih =>
    have low : (UInt8.ofNat value).toNat = value % 256 := by simp
    rw [littleOctets,littleValue,ih,low,pow_succ',Nat.mod_mul]

theorem load_store (order : ByteOrder) (width value : Nat) (bound : value < 256^width) :
    load order (store order width value) = value := by
  cases order <;> simp [load,store,littleValue_octets,Nat.mod_eq_of_lt bound]

theorem littleValue_lt (octets : List UInt8) : littleValue octets < 256^octets.length := by
  induction octets with
  | nil => simp [littleValue]
  | cons octet rest ih =>
    have small := octet.toNat_lt
    simp only [littleValue,List.length_cons,pow_succ]
    omega

theorem littleOctets_value (octets : List UInt8) :
    littleOctets octets.length (littleValue octets) = octets := by
  induction octets with
  | nil => rfl
  | cons octet rest ih =>
    have small := octet.toNat_lt
    have head : (octet.toNat + 256 * littleValue rest) / 256 = littleValue rest := by omega
    have low : UInt8.ofNat (octet.toNat + 256 * littleValue rest) = octet := by
      apply UInt8.toNat_inj.mp
      simp only [UInt8.toNat_ofNat']
      omega
    simp only [List.length_cons,littleValue,littleOctets,head,low,ih]

theorem store_load (order : ByteOrder) (octets : List UInt8) :
    store order octets.length (load order octets) = octets := by
  cases order with
  | little => exact littleOctets_value octets
  | big =>
    have image := littleOctets_value octets.reverse
    rw [List.length_reverse] at image
    simp [store,load,image]

theorem load_lt (order : ByteOrder) (octets : List UInt8) :
    load order octets < 256^octets.length := by
  cases order with
  | little => exact littleValue_lt octets
  | big => simpa [load] using littleValue_lt octets.reverse

/-- A wide word's image is the images of its halves, in the host's order. -/
theorem littleOctets_add (low high value : Nat) :
    littleOctets (low+high) value =
      littleOctets low value ++ littleOctets high (value / 256^low) := by
  induction low generalizing value with
  | zero => simp [littleOctets]
  | succ low ih =>
    have split : low+1+high = (low+high)+1 := by omega
    rw [split,littleOctets,ih,littleOctets,List.cons_append,pow_succ',Nat.div_div_eq_div_mul]

theorem littleOctets_mod (width value : Nat) :
    littleOctets width (value % 256^width) = littleOctets width value := by
  have same := littleOctets_value (littleOctets width value)
  rwa [littleOctets_length,littleValue_octets] at same

end RestRpc.Octets
