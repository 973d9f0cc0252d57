import LockTriage.Explorer.Source
import LockTriage.Scan.Desk

/-!
Getting the verified source of a contract. A cached answer is used without
asking the explorer or drawing a key, and only answers with a source in them are
cached.
-/

namespace LockTriage.Scan

variable {σ : Type}

def sourceOf (network : Network) (address : String) (response : Json) :
    Except ScanError VerifiedSource :=
  (VerifiedSource.ofResponse response).mapError (.malformed network address)

/-- The error for a query that brought no document. -/
def queryError (q : Query) : QueryFault → ScanError
  | .status code => .status q.network q.address code
  | .request fault => .request q.network fault

/-- Ask the explorer of a network, with the next one of its keys. -/
def ask (explorer : Explorer σ) (desk : Desk σ) (network : Network) (address : String) :
    Except ScanError Json × Desk σ :=
  match desk.keys.draw? network with
  | none => (.error (.missingKeys network), desk)
  | some (key, keys) =>
      let query : Query := ⟨network, explorer.endpoint network, address, key⟩
      let (answer, state) := explorer.answer query desk.explorer
      (answer.mapError (queryError query),
        { desk with keys := keys, explorer := state }.happened
          [.noted (.asking query), .asked query])

def keep [o : Manifest.Order] (desk : Desk σ) (key : CacheKey) (response : Json) :
    Except ScanError Unit × Desk σ :=
  let (done, cache, files) := desk.cache.put desk.files key response
  (done, { desk with cache := cache, files := files })

/-- Get the source from the explorer, and cache its answer. -/
def fetchFresh [o : Manifest.Order] (explorer : Explorer σ) (desk : Desk σ) (network : Network)
    (address : String) : Except ScanError VerifiedSource × Desk σ :=
  match ask explorer desk network address with
  | (.error e, desk) => (.error e, desk)
  | (.ok response, desk) =>
      match sourceOf network address response with
      | .error e => (.error e, desk)
      | .ok found =>
          let (done, desk) := keep desk ⟨network, address⟩ response
          (done.map fun _ => found, desk)

/-- Get the source of a contract, from the cache if it is there. -/
def fetch [o : Manifest.Order] (explorer : Explorer σ) (desk : Desk σ) (network : Network)
    (address : String) : Except ScanError VerifiedSource × Desk σ :=
  let (cached, notes) := desk.cache.get? desk.files ⟨network, address⟩
  match cached with
  | some response =>
      (sourceOf network address response, desk.noting (notes ++ [.cacheHit ⟨network, address⟩]))
  | none => fetchFresh explorer (desk.noting notes) network address

end LockTriage.Scan
