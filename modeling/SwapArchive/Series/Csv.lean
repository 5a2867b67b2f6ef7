import SwapArchive.Series.Basic

/-!
# Price series as text
-/

namespace SwapArchive

/-- **Numbers in a series**: never an exponent, and whole numbers without a point. -/
def plainStyle : Decimal.Style where
  positional := none
  pointAlways := false
  plusSign := false
  tie := .up
  notANumber := "NaN"
  infinity := "inf"

namespace Series

/-- The line with the names of the columns. -/
def csvHeader : String := "timestamp,price,rolling_mad"

/-- The line of a price. The last column is empty where there is no deviation. -/
def csvLine (point : PricePoint) (deviation : Option Float) : String :=
  String.intercalate "," [
    toString point.timestamp,
    plainStyle.write point.price,
    (deviation.map plainStyle.write).getD ""]

/-- The line of the price at an index. A deviation that is missing because there are too few prices
leaves its column empty. -/
def csvLineAt (s : Series) (row : PricePoint × Nat) : Outcome String :=
  match s.deviationAt row.2 with
  | .ok deviation => .ok (csvLine row.1 (some deviation))
  | .error (.insufficientData _) => .ok (csvLine row.1 none)
  | .error f => .error f

/-- Lines as a text, with a line feed after every one. -/
def textOfLines (lines : List String) : String := String.join (lines.map (· ++ "\n"))

/-- **Series as text**: times, prices and deviations with commas between them, one price a line. -/
def csv (s : Series) : Outcome String := do
  let lines ← s.points.zipIdx.mapM s.csvLineAt
  return textOfLines (csvHeader :: lines)

end Series
end SwapArchive
