import SwapArchive.Series.Basic
import SwapArchive.Store.Listing
import SwapArchive.Store.Opening

/-!
# Series from a directory
-/

namespace SwapArchive

/-- What a shard yields when a series is built. -/
def Shard.rows (s : Shard) : ShardRows := ⟨s.label, s.scan⟩

namespace Tree

/-- **Opening a directory**: every complete shard, in order of the names, and what is reported. -/
def openShards (t : Tree) (directory : String) : Outcome (List Shard) × List Log.Record :=
  match t.listShards directory with
  | .error f => (.error f, [])
  | .ok names =>
    (names.mapM fun name => (t.openReadOnly (joinPath directory name)).1,
      [.info "opening shards" [("dir", directory), ("shards", toString names.length)]])

end Tree
end SwapArchive
