import RateCard.Json.Numeral

/-!
# JSON documents

Documents with their members in order. `put` gives an object its reading of repeated keys: the
last value, at the place of the first. `same` compares documents up to the order of members.
-/
namespace RateCard

inductive Json where
  | null
  | bool (value : Bool)
  | number (value : Json.Numeral)
  | string (value : String)
  | array (items : List Json)
  | object (members : List (String × Json))
  deriving Repr

namespace Json

abbrev Members := List (String × Json)

namespace Members

def put (key : String) (value : Json) : Members → Members
  | [] => [(key, value)]
  | (k, v) :: rest => if k = key then (k, value) :: rest else (k, v) :: put key value rest

/-- The members of an object whose keys were written in this order. -/
def ofWritten (written : Members) : Members :=
  written.foldl (fun members (key, value) => put key value members) []

def get? (key : String) : Members → Option Json
  | [] => none
  | (k, v) :: rest => if k = key then some v else get? key rest

def keys (members : Members) : List String := members.map Prod.fst

end Members

mutual

def same : Json → Json → Bool
  | .null, .null => true
  | .bool a, .bool b => a == b
  | .number a, .number b => a == b
  | .string a, .string b => a == b
  | .array as, .array bs => sameItems as bs
  | .object as, .object bs => as.length == bs.length && sameMembers as bs
  | _, _ => false

def sameItems : List Json → List Json → Bool
  | [], [] => true
  | a :: as, b :: bs => same a b && sameItems as bs
  | _, _ => false

/-- Every member on the left has an equal one on the right. -/
def sameMembers : List (String × Json) → List (String × Json) → Bool
  | [], _ => true
  | (key, a) :: as, bs =>
    (match Members.get? key bs with
      | some b => same a b
      | none => false) && sameMembers as bs

end

end Json
end RateCard
