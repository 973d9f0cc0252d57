import LockTriage.Cache.Disk

/-!
The cache in front of the explorers: answers by contract, in memory for one run
or on disk. Answers never expire.
-/

namespace LockTriage

inductive Cache
  | memory (answers : List (CacheKey × Json))
  | disk (cache : DiskCache)
  deriving Repr

namespace Cache

/-- Nothing is cached, and nothing will outlive the run. -/
def empty : Cache := .memory []

def size : Cache → Nat
  | memory answers => answers.length
  | disk cache => cache.size

/-- The answer of a contract, with what is worth noting about it. -/
def get? (files : FileTree) (key : CacheKey) : Cache → Option Json × List Note
  | memory answers => (Assoc.get? key answers, [])
  | disk cache => cache.get? files key

def put [o : Manifest.Order] (files : FileTree) (key : CacheKey) (answer : Json) :
    Cache → Except ScanError Unit × Cache × FileTree
  | memory answers => (.ok (), memory (Assoc.set key answer answers), files)
  | disk cache =>
      let (done, cache, files) := cache.put files key answer
      (done, disk cache, files)

end Cache

end LockTriage
