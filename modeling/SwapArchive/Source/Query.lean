/-!
# Queries
-/

namespace SwapArchive

/-- The pools of a query, between quotation marks and with commas between them. They are not
escaped. -/
def quotedPools (pools : List String) : String :=
  String.intercalate ", " (pools.map fun p => "\"" ++ p ++ "\"")

/-- The lines of a query before the fields, up to the opening brace of the selection. -/
def queryHead (pools : List String) (pageSize : Nat) (asOf : Int) : String :=
  "  swaps(where: \x7btimestamp_lte: " ++ toString asOf ++ ", pool_in: [" ++ quotedPools pools
    ++ "]\x7d, first: " ++ toString pageSize
    ++ ", orderBy: timestamp, orderDirection: desc) \x7b"

/-- The fields that are asked for of a swap, one a line. -/
def queryFields : List String := [
  "    id",
  "    transaction \x7b",
  "      id",
  "      blockNumber",
  "    \x7d",
  "    pool \x7b",
  "      id",
  "      token0 \x7b",
  "        id",
  "        symbol",
  "      \x7d",
  "      token1 \x7b",
  "        id",
  "        symbol",
  "      \x7d",
  "    \x7d",
  "    sender",
  "    recipient",
  "    amount0",
  "    amount1",
  "    timestamp"]

/-- **Query**: the newest swaps of the pools that are not after a time, up to the page size. -/
def queryText (pools : List String) (pageSize : Nat) (asOf : Int) : String :=
  String.intercalate "\n"
    (["\x7b", queryHead pools pageSize asOf] ++ queryFields ++ ["  \x7d", "\x7d"])

end SwapArchive
