import SwapArchive.Shard.Day
import SwapArchive.Store.Path

/-!
# Directories of shards
-/

namespace SwapArchive

/-- The part of a name before its last point, and the part after. A point in front does not
count. -/
def splitEnding (name : List Char) : Option (List Char × List Char) :=
  let reversed := name.reverse
  let ending := reversed.takeWhile (· != '.')
  -- Without a point the stem is empty, and so it is where the only point stands in front.
  let stem := (reversed.drop (ending.length + 1)).reverse
  if stem.isEmpty then none else some (stem, ending.reverse)

/-- **Names of complete shards**: the right ending, and a stem that is not marked as temporary. -/
def isShardName (name : String) : Bool :=
  match splitEnding name.toList with
  | none => false
  | some (stem, ending) =>
    '.' :: ending == shardEnding.toList && !(temporaryMark.toList.isSuffixOf stem)

/-- **Listing**: the names of the complete shards in a directory, in their order. -/
def Tree.listShards (t : Tree) (path : String) : Outcome (List String) :=
  match t.find path with
  | .error fault => .error fault.failure
  | .ok (.vacant _) => .error PathFault.missing.failure
  | .ok (.present _ (.file _)) => .error PathFault.notDirectory.failure
  | .ok (.present place .directory) =>
    .ok (((t.fileNames place).filter isShardName).mergeSort Tree.nameOrder)

end SwapArchive
