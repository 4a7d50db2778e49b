import RateCard.Json.Print

/-!
# Price lists

One record of prices per model, in the order of the listing. A record is an object as it came;
nothing in it is interpreted.
-/
namespace RateCard

abbrev PriceRecord := Json.Members

structure PriceList where
  records : List PriceRecord
  deriving Repr

namespace PriceList

def empty : PriceList := ⟨[]⟩

def size (l : PriceList) : Nat := l.records.length

def isEmpty (l : PriceList) : Bool := l.records.isEmpty

def toJson (l : PriceList) : Json := .array (l.records.map .object)

/-- Equality up to the order of the members of objects. -/
def same (a b : PriceList) : Bool := Json.same a.toJson b.toJson

def keys (l : PriceList) : List (List String) := l.records.map Json.Members.keys

def compact (l : PriceList) : String := l.toJson.compact

def pretty (l : PriceList) : String := l.toJson.pretty

end PriceList
end RateCard
