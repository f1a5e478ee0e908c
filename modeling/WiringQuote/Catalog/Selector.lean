import WiringQuote.Value.Field
import WiringQuote.Value.Operand

/-!
# Product selectors

A rule may name products outright: one product for every quantity (`fixed`), and a list of buckets,
each with the largest quantity that it is meant for. Buckets are tried in the order in which they
are listed, a bucket without a limit takes every quantity, and a quantity beyond all limits goes to
the last bucket.
-/

namespace WiringQuote

open Decimal

/-- A product for quantities up to a limit. -/
structure Bucket where
  limit : Option Float
  productId : String

/-- The products that a rule names. -/
structure Selector where
  buckets : List Bucket
  fixed : Option String

namespace Bucket

def takes (bucket : Bucket) (quantity : Number) : Bool :=
  match bucket.limit with
  | none => true
  | some limit => quantity.atMostFloat limit

end Bucket

namespace Selector

def empty : Selector := ⟨[], none⟩

/-- The product of the first bucket that takes the quantity, else of the last bucket. -/
def bucketProduct? (selector : Selector) (quantity : Number) : Option String :=
  ((selector.buckets.find? (·.takes quantity)).orElse fun _ => selector.buckets.getLast?).map
    (·.productId)

/-- The product for a given quantity. One that is no number is only at fault where a limit is compared
with it. -/
def bucketProductFor (selector : Selector) (quantity : Value) :
    Except OperandFault (Option String) :=
  match quantity.number?, selector.buckets with
  | some n, _ => .ok (selector.bucketProduct? n)
  | none, [] => .ok none
  | none, bucket :: _ =>
    if bucket.limit.isNone then .ok (some bucket.productId)
    else .error (.unordered ">=" "float" quantity.kindName)

/-! ## Reading -/

/-- The first present value under the two keys of a product. -/
def productKey? (fields : List (String × Value)) : Option String :=
  let named (key : String) := (OrderedMap.lookup key fields).filter (·.isPresent)
  ((named "product_id").orElse fun _ => named "selected_product_id").map (·.text)

/-- The limit of a bucket; one that is no number counts as none. -/
def readLimit : Value → Except Fault (Option Float)
  | .null => .ok none
  | v =>
    match v.asFloat with
    | .ok x => .ok (some x)
    | .error (.arithmetic fault) => .error fault
    | .error _ => .ok none

/-- The buckets of the listed objects that name a product. -/
def readBuckets : List Value → Except Fault (List Bucket)
  | [] => .ok []
  | .obj fields :: rest =>
    match productKey? fields with
    | none => readBuckets rest
    | some productId => do
      let limit ← readLimit ((OrderedMap.lookup "max" fields).getD .null)
      return ⟨limit, productId⟩ :: (← readBuckets rest)
  | _ :: rest => readBuckets rest

/-- The list of buckets, under either of the two keys that may hold it. -/
def bucketItems (fields : List (String × Value)) : List Value :=
  match OrderedMap.lookup "calculated_quantity" fields with
  | some (.list items) => items
  | _ =>
    match OrderedMap.lookup "based_on" fields, OrderedMap.lookup "rules" fields with
    | some (.str basis), some (.list items) => if basis = "calculated_quantity" then items else []
    | _, _ => []

/-- The selector that a stored value describes; anything but an object describes none. -/
def read : Value → Except Fault Selector
  | .obj fields => do
    let buckets ← readBuckets (bucketItems fields)
    let fixed := (OrderedMap.lookup "selected_product_id" fields).filter (·.isPresent)
    return ⟨buckets, fixed.map (·.text)⟩
  | _ => .ok empty

end Selector

end WiringQuote
