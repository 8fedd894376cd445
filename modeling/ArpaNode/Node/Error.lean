import ArpaNode.ContractClient.Caller
/-! The errors the node's pipeline returns.  Their declarations (`node/src/node/error.rs`,
`core`'s `BLSTaskError`, `dal`'s `DataAccessError`) are not among the sources; the variants are
the ones the modelled code constructs or converts with `?`, and each keeps the data it carries
there.  A data-access error keeps only its message. -/

namespace ArpaNode.Node

open ArpaNode.ContractClient

/-- `DataAccessError`, the error of the group, task and result caches. -/
structure DataAccessError where
  message : String
  deriving DecidableEq, Repr

/-- `BLSTaskError`, for the variant the committer server constructs. -/
inductive BLSTaskError where
  | committerCacheNotExisted
  deriving DecidableEq, Repr

/-- `NodeError`, for the variants the modelled code constructs, and the two that `?` converts
into. -/
inductive NodeError where
  | contractClientError (e : ContractClientError)
  | dataAccessError (e : DataAccessError)
  | groupNotReady
  | notCommitter
  | addressFormatError
  | memberNotExisted
  | invalidChainId (chainId : Nat)
  | invalidTaskType
  | invalidTaskMessage
  deriving DecidableEq, Repr

/-- `Result::unwrap_or`. -/
def unwrapOr {ε α : Type} : Except ε α → α → α
  | .ok a, _ => a
  | .error _, d => d

end ArpaNode.Node
