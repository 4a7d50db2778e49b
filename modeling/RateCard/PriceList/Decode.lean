import RateCard.Json.Decode
import RateCard.PriceList.Basic

/-!
# Reading price lists

The typed reader wants an array of objects and says what it met instead. The objects it reads as
records keep every key; only objects inside a record may stand for numbers.
-/
namespace RateCard.PriceList
open RateCard.Json (Members Fault)
open RateCard.Json.Scan
open RateCard.Text (Bytes)

/-- The members of an object after its opening brace. -/
def members (item : Reader Json) : Reader Members := fun s => do
  let (key, s) ← firstKey s
  match key with
  | none => .ok ([], s)
  | some key => do
    let (written, s) ← membersFrom item key s
    .ok (Members.ofWritten written, s)

def record (item : Reader Json) : Reader PriceRecord := fun s =>
  match skipBlanks s with
  | [] => stopPast .endInValue []
  | b :: s => if b = 123 then members item s else mismatch .map (b :: s)

def list (item : Reader PriceRecord) : Reader (List PriceRecord) := fun s =>
  match skipBlanks s with
  | [] => stopPast .endInValue []
  | b :: s => if b = 91 then array item s else mismatch .sequence (b :: s)

/-- The price list that a text holds. The list and its records take two of the levels that
documents may have. -/
def decode (text : Bytes) : Except Fault PriceList :=
  whole (fun s => do
    let (records, s) ← list (record (value (maxDepth - 2))) s
    .ok (⟨records⟩, s)) text

end RateCard.PriceList
