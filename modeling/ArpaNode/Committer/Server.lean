import ArpaNode.Dal.ResultCache
/-! The committer's RPC handler, `BLSCommitterServiceServer::commit_partial_signature`
(`committer/server.rs`).  It checks, in order, that the group is ready, that this node is a
committer, that the sender's address parses, that the sender is a member, that the partial
signature verifies against the member's partial public key, that the task is a randomness task
of the main chain, that the result cache holds the task, and that the message is UTF-8 and is
the cached one; then it adds the partial to the cache.  Each rejection is a `Status` with its
own code.  The handler's result is `none` where it panics: on a member without a partial public
key, on a task type `TaskType::from` does not know, or on a cache that reports an entry `get`
does not return.

The handler accepts exactly when every check passes, and its one write is the last step, to an
entry the cache already held.  Beside it, `contractCode` is the committer RPC contract in the
spec's words (§4.6): the handler answers with the contract's codes, in the contract's order,
except that a message that is not UTF-8, which the contract rejects as `InvalidArgument`, is
answered `Internal`, as is a failure of the cache's own write. -/

namespace ArpaNode.Committer

open ArpaNode.Core ArpaNode.Node ArpaNode.Dal

/-- `TaskType`. -/
inductive TaskType where
  | randomness
  | groupRelay
  | groupRelayConfirmation
  deriving DecidableEq, Repr

/-- `Member`, for the field the committer reads: the partial public key, absent until the DKG
completes. -/
structure Member (κ : Type) where
  partialPublicKey : Option κ
  deriving DecidableEq, Repr

/-- The methods of the group cache (`GroupInfoFetcher`) that the committer server calls. -/
structure GroupFetcher (γ κ : Type) where
  getState : γ → Except DataAccessError Bool
  isCommitter : γ → Address → Except DataAccessError Bool
  getMember : γ → Address → Except DataAccessError (Member κ)

/-- What the handler calls that is not among the sources: the group cache, the result cache,
`SimpleBLSCore::partial_verify`, and `TaskType::from` (`none` where it panics). -/
structure CommitterEnv (γ σ κ ε : Type) where
  group : GroupFetcher γ κ
  cache : SignatureResultCache σ
  partialVerify : κ → List UInt8 → List UInt8 → Except ε Unit
  taskTypeFrom : Nat → Option TaskType

/-- `BLSCommitterServiceServer`, with the state of its group cache and of the main chain's
randomness result cache. -/
structure BLSCommitterServiceServer (γ σ : Type) where
  idAddress : Address
  groupCache : γ
  randomnessResultCache : σ
  deriving DecidableEq

/-- `CommitPartialSignatureRequest`. -/
structure CommitPartialSignatureRequest where
  idAddress : String
  chainId : Nat
  taskType : Nat
  signatureIndex : Nat
  partialSignature : List UInt8
  message : List UInt8
  deriving DecidableEq, Repr

/-- `CommitPartialSignatureReply`. -/
structure CommitPartialSignatureReply where
  result : Bool
  deriving DecidableEq, Repr

/-- `tonic::Code`, for the codes the server returns. -/
inductive Code where
  | notFound
  | invalidArgument
  | internal
  deriving DecidableEq, Repr

/-- The error whose display is a status's message. -/
inductive StatusMessage (ε : Type) where
  | nodeError (e : NodeError)
  | blsTaskError (e : BLSTaskError)
  | blsError (e : ε)
  | fromUtf8Error (e : FromUtf8Error)
  deriving DecidableEq

/-- `tonic::Status`. -/
structure Status (ε : Type) where
  code : Code
  message : StatusMessage ε
  deriving DecidableEq

variable {γ σ κ ε : Type}

/-! ### The handler -/

/-- The `TaskType::Randomness` arm of `commit_partial_signature`, from the chain id on. -/
def commitRandomnessPartial (env : CommitterEnv γ σ κ ε) (server : BLSCommitterServiceServer γ σ)
    (req : CommitPartialSignatureRequest) (reqIdAddress : Address) :
    Option (Except (Status ε) CommitPartialSignatureReply × BLSCommitterServiceServer γ σ) :=
  let chainId := req.chainId
  if chainId ≠ 0 then
    some (.error ⟨.invalidArgument, .nodeError (.invalidChainId chainId)⟩, server)
  else
    let randomnessResultCache := server.randomnessResultCache
    if !env.cache.contains randomnessResultCache req.signatureIndex then
      some (.error ⟨.invalidArgument, .blsTaskError .committerCacheNotExisted⟩, server)
    else
      (env.cache.get randomnessResultCache req.signatureIndex).bind fun entry =>
        let committerCacheMessage := entry.resultCache.message
        match fromUtf8 req.message with
        | .error e => some (.error ⟨.internal, .fromUtf8Error e⟩, server)
        | .ok reqMessage =>
          if reqMessage ≠ committerCacheMessage then
            some (.error ⟨.invalidArgument, .nodeError .invalidTaskMessage⟩, server)
          else
            match env.cache.addPartialSignature randomnessResultCache req.signatureIndex
                reqIdAddress req.partialSignature with
            | .error _ =>
              some (.error ⟨.internal, .blsTaskError .committerCacheNotExisted⟩, server)
            | .ok (_, cache') =>
              some (.ok ⟨true⟩, { server with randomnessResultCache := cache' })

/-- `commit_partial_signature` once the sender's member record is found: the partial public key
is unwrapped, the partial signature verified, and the task type read. -/
def commitMemberPartial (env : CommitterEnv γ σ κ ε) (server : BLSCommitterServiceServer γ σ)
    (req : CommitPartialSignatureRequest) (reqIdAddress : Address) (member : Member κ) :
    Option (Except (Status ε) CommitPartialSignatureReply × BLSCommitterServiceServer γ σ) :=
  member.partialPublicKey.bind fun partialPublicKey =>
    match env.partialVerify partialPublicKey req.message req.partialSignature with
    | .error e => some (.error ⟨.internal, .blsError e⟩, server)
    | .ok () =>
      (env.taskTypeFrom req.taskType).bind fun
        | .randomness => commitRandomnessPartial env server req reqIdAddress
        | _ => some (.error ⟨.invalidArgument, .nodeError .invalidTaskType⟩, server)

/-- `BLSCommitterServiceServer::commit_partial_signature`. -/
def commitPartialSignature (env : CommitterEnv γ σ κ ε) (server : BLSCommitterServiceServer γ σ)
    (req : CommitPartialSignatureRequest) :
    Option (Except (Status ε) CommitPartialSignatureReply × BLSCommitterServiceServer γ σ) :=
  match env.group.getState server.groupCache with
  | .ok true =>
    match env.group.isCommitter server.groupCache server.idAddress with
    | .ok true =>
      match parseAddress req.idAddress with
      | none => some (.error ⟨.invalidArgument, .nodeError .addressFormatError⟩, server)
      | some reqIdAddress =>
        match env.group.getMember server.groupCache reqIdAddress with
        | .ok member => commitMemberPartial env server req reqIdAddress member
        | .error _ => some (.error ⟨.notFound, .nodeError .memberNotExisted⟩, server)
    | _ => some (.error ⟨.notFound, .nodeError .notCommitter⟩, server)
  | _ => some (.error ⟨.notFound, .nodeError .groupNotReady⟩, server)

/-! ### Acceptance, stage by stage -/

section Stages

variable (env : CommitterEnv γ σ κ ε) (server : BLSCommitterServiceServer γ σ)
  (req : CommitPartialSignatureRequest)

theorem commitRandomnessPartial_eq_ok {a : Address} {server' : BLSCommitterServiceServer γ σ} :
    commitRandomnessPartial env server req a = some (.ok ⟨true⟩, server') ↔
      req.chainId = 0 ∧ env.cache.contains server.randomnessResultCache req.signatureIndex ∧
      ∃ e msg b s', env.cache.get server.randomnessResultCache req.signatureIndex = some e ∧
        fromUtf8 req.message = .ok msg ∧ msg = e.resultCache.message ∧
        env.cache.addPartialSignature server.randomnessResultCache req.signatureIndex a
          req.partialSignature = .ok (b, s') ∧
        server' = { server with randomnessResultCache := s' } := by
  constructor
  · intro h
    simp only [commitRandomnessPartial] at h
    split_ifs at h with hc hk
    · cases h
    · cases h
    simp only [Bool.not_eq_true', Bool.not_eq_false] at hk
    obtain ⟨e, hg, h⟩ := Option.bind_eq_some.mp h
    split at h
    · cases h
    · next msg hu =>
      split_ifs at h with hm
      · cases h
      split at h
      · cases h
      · next b s' ha =>
        cases h
        exact ⟨not_not.mp hc, hk, e, msg, b, s', hg, hu, not_not.mp hm, ha, rfl⟩
  · rintro ⟨hc, hk, e, msg, b, s', hg, hu, rfl, ha, rfl⟩
    simp [commitRandomnessPartial, hc, hk, hg, hu, ha]

theorem commitMemberPartial_eq_ok {a : Address} {m : Member κ}
    {server' : BLSCommitterServiceServer γ σ} :
    commitMemberPartial env server req a m = some (.ok ⟨true⟩, server') ↔
      ∃ pk, m.partialPublicKey = some pk ∧
        env.partialVerify pk req.message req.partialSignature = .ok () ∧
        env.taskTypeFrom req.taskType = some .randomness ∧
        commitRandomnessPartial env server req a = some (.ok ⟨true⟩, server') := by
  constructor
  · intro h
    obtain ⟨pk, hpk, h⟩ := Option.bind_eq_some.mp h
    split at h
    · cases h
    · next hv =>
      obtain ⟨t, ht, h⟩ := Option.bind_eq_some.mp h
      cases t
      · exact ⟨pk, hpk, hv, ht, h⟩
      all_goals cases h
  · rintro ⟨pk, hpk, hv, ht, h⟩
    simp [commitMemberPartial, hpk, hv, ht, h]

theorem commitPartialSignature_eq_ok {server' : BLSCommitterServiceServer γ σ} :
    commitPartialSignature env server req = some (.ok ⟨true⟩, server') ↔
      env.group.getState server.groupCache = .ok true ∧
      env.group.isCommitter server.groupCache server.idAddress = .ok true ∧
      ∃ a m, parseAddress req.idAddress = some a ∧
        env.group.getMember server.groupCache a = .ok m ∧
        commitMemberPartial env server req a m = some (.ok ⟨true⟩, server') := by
  constructor
  · intro h
    unfold commitPartialSignature at h
    split at h
    · next hs =>
      split at h
      · next hc =>
        split at h
        · cases h
        · next a ha =>
          split at h
          · next m hm => exact ⟨hs, hc, a, m, ha, hm, h⟩
          · cases h
      · cases h
    · cases h
  · rintro ⟨hs, hc, a, m, ha, hm, h⟩
    simp [commitPartialSignature, hs, hc, ha, hm, h]

/-! ### Where the handler panics -/

theorem commitRandomnessPartial_frame {a : Address}
    {r : Except (Status ε) CommitPartialSignatureReply}
    {server' : BLSCommitterServiceServer γ σ}
    (h : commitRandomnessPartial env server req a = some (r, server')) :
    server' = server ∨ r = .ok ⟨true⟩ ∧
      ∃ b s', env.cache.contains server.randomnessResultCache req.signatureIndex ∧
      env.cache.addPartialSignature server.randomnessResultCache req.signatureIndex a
        req.partialSignature = .ok (b, s') ∧
      server' = { server with randomnessResultCache := s' } := by
  simp only [commitRandomnessPartial] at h
  split_ifs at h with hc hk
  · cases h
    exact .inl rfl
  · cases h
    exact .inl rfl
  obtain ⟨e, -, h⟩ := Option.bind_eq_some.mp h
  split at h
  · cases h
    exact .inl rfl
  split_ifs at h
  · cases h
    exact .inl rfl
  split at h
  · cases h
    exact .inl rfl
  · next b s' ha =>
    cases h
    exact .inr ⟨rfl, b, s', by simpa using hk, ha, rfl⟩

theorem commitMemberPartial_frame {a : Address} {m : Member κ}
    {r : Except (Status ε) CommitPartialSignatureReply} {server' : BLSCommitterServiceServer γ σ}
    (h : commitMemberPartial env server req a m = some (r, server')) :
    server' = server ∨ commitRandomnessPartial env server req a = some (r, server') := by
  obtain ⟨pk, -, h⟩ := Option.bind_eq_some.mp h
  split at h
  · cases h
    exact .inl rfl
  · obtain ⟨t, -, h⟩ := Option.bind_eq_some.mp h
    cases t
    · exact .inr h
    all_goals
      cases h
      exact .inl rfl

/-- The server changes nothing but the result cache, and that only by the one
`add_partial_signature` of an accepted request, to an entry the cache held. -/
theorem commitPartialSignature_frame {r : Except (Status ε) CommitPartialSignatureReply}
    {server' : BLSCommitterServiceServer γ σ}
    (h : commitPartialSignature env server req = some (r, server')) :
    server' = server ∨ r = .ok ⟨true⟩ ∧ ∃ a b s', parseAddress req.idAddress = some a ∧
      env.cache.contains server.randomnessResultCache req.signatureIndex ∧
      env.cache.addPartialSignature server.randomnessResultCache req.signatureIndex a
        req.partialSignature = .ok (b, s') ∧
      server' = { server with randomnessResultCache := s' } := by
  unfold commitPartialSignature at h
  split at h
  · split at h
    · split at h
      · cases h
        exact .inl rfl
      · next a ha =>
        split at h
        · rcases commitMemberPartial_frame env server req h with rfl | h
          · exact .inl rfl
          · rcases commitRandomnessPartial_frame env server req h with
              rfl | ⟨rfl, b, s', hk, hadd, rfl⟩
            · exact .inl rfl
            · exact .inr ⟨rfl, a, b, s', ha, hk, hadd, rfl⟩
        · cases h
          exact .inl rfl
    · cases h
      exact .inl rfl
  · cases h
    exact .inl rfl

/-! ### Where a message that is not UTF-8 is reported -/

/-- The handler reports `from_utf8`'s error only from the message check, with that check's
error. -/
theorem commitRandomnessPartial_fromUtf8Error {a : Address} {e : FromUtf8Error}
    {server' : BLSCommitterServiceServer γ σ}
    (h : commitRandomnessPartial env server req a =
      some (.error ⟨.internal, .fromUtf8Error e⟩, server')) :
    fromUtf8 req.message = .error e := by
  simp only [commitRandomnessPartial] at h
  split_ifs at h
  · cases h
  · cases h
  obtain ⟨entry, -, h⟩ := Option.bind_eq_some.mp h
  split at h
  · next err hu =>
    cases h
    exact hu
  · split_ifs at h
    · cases h
    · split at h <;> cases h

theorem commitPartialSignature_fromUtf8Error {e : FromUtf8Error}
    {server' : BLSCommitterServiceServer γ σ}
    (h : commitPartialSignature env server req =
      some (.error ⟨.internal, .fromUtf8Error e⟩, server')) :
    fromUtf8 req.message = .error e := by
  unfold commitPartialSignature at h
  split at h <;> try cases h
  split at h <;> try cases h
  split at h <;> try cases h
  split at h <;> try cases h
  obtain ⟨pk, -, h⟩ := Option.bind_eq_some.mp h
  split at h
  · cases h
  · obtain ⟨t, -, h⟩ := Option.bind_eq_some.mp h
    cases t
    · exact commitRandomnessPartial_fromUtf8Error env server req h
    all_goals cases h

end Stages

/-- Whether a member's partial public key verifies the request's partial signature; a member
without one verifies nothing. -/
def partialVerifies (env : CommitterEnv γ σ κ ε) (m : Member κ)
    (req : CommitPartialSignatureRequest) : Bool :=
  match m.partialPublicKey with
  | some pk => (env.partialVerify pk req.message req.partialSignature).toBool
  | none => false

/-- Modelled from the spec: rules 7 and 8 of the contract, `InvalidArgument` if no cache entry
exists for the request, or if the request's message is not the cached one. -/
def contractEntryCode (env : CommitterEnv γ σ κ ε) (server : BLSCommitterServiceServer γ σ)
    (req : CommitPartialSignatureRequest) : Option Code :=
  if !env.cache.contains server.randomnessResultCache req.signatureIndex then some .invalidArgument
  else
    match env.cache.get server.randomnessResultCache req.signatureIndex with
    | some e => if req.message ≠ e.resultCache.message.vec then some .invalidArgument else none
    | none => some .invalidArgument

/-- Modelled from the spec: rules 5 and 6 of the contract, `Internal` if the partial does not
verify against the sender's partial public key, `InvalidArgument` if the task type is not
`Randomness` or the chain is not the main one; then rules 7 and 8. -/
def contractSignedCode (env : CommitterEnv γ σ κ ε) (server : BLSCommitterServiceServer γ σ)
    (req : CommitPartialSignatureRequest) (m : Member κ) : Option Code :=
  if !partialVerifies env m req then some .internal
  else if env.taskTypeFrom req.taskType ≠ some .randomness ∨ req.chainId ≠ 0 then
    some .invalidArgument
  else contractEntryCode env server req

/-- Modelled from the spec: the committer RPC contract (§4.6) in its words, as the code of the
first rule that rejects the request, `none` when the partial is to be added.  Rules 1 to 4:
`NotFound` if the group is not ready, `NotFound` if this node is not a committer,
`InvalidArgument` on a malformed sender address, `NotFound` if the sender is not a member; then
rules 5 to 8. -/
def contractCode (env : CommitterEnv γ σ κ ε) (server : BLSCommitterServiceServer γ σ)
    (req : CommitPartialSignatureRequest) : Option Code :=
  match env.group.getState server.groupCache with
  | .ok true =>
    match env.group.isCommitter server.groupCache server.idAddress with
    | .ok true =>
      match parseAddress req.idAddress with
      | none => some .invalidArgument
      | some a =>
        match env.group.getMember server.groupCache a with
        | .error _ => some .notFound
        | .ok m => contractSignedCode env server req m
    | _ => some .notFound
  | _ => some .notFound

section Contract

variable (env : CommitterEnv γ σ κ ε) (server : BLSCommitterServiceServer γ σ)
  (req : CommitPartialSignatureRequest)

end Contract

/-- Modelled from the spec: a ready group in which this node is a committer and every member's
partial public key verifies what the member signed; task type 1 is `Randomness`. -/
def readyCommitter : CommitterEnv Unit (List (Nat × BLSResultCache)) Unit Unit where
  group := ⟨fun _ => .ok true, fun _ _ => .ok true, fun _ _ => .ok ⟨some ()⟩⟩
  cache := entryCache
  partialVerify _ _ _ := .ok ()
  taskTypeFrom n := if n = 1 then some .randomness else some .groupRelay

/-- The message `"x"`. -/
def messageX : RustString := ⟨[0x78], by decide⟩

/-- A committer whose result cache holds the randomness task of index 7, with message `"x"`. -/
def holdingTask : BLSCommitterServiceServer Unit (List (Nat × BLSResultCache)) :=
  ⟨⟨1⟩, (), [(7, ⟨⟨messageX, []⟩⟩)]⟩

/-- A member's partial for index 7 over the single byte `0xFF`, which is not UTF-8. -/
def nonUtf8Request : CommitPartialSignatureRequest :=
  ⟨"0x0000000000000000000000000000000000000002", 0, 1, 7, [1, 2, 3], [0xFF]⟩

/-- A verified partial whose message is not UTF-8 is answered `Internal`, with the error of
`String::from_utf8`, where the contract rejects a message that is not the cached one as
`InvalidArgument`. -/
theorem commitPartialSignature_non_utf8_internal :
    commitPartialSignature readyCommitter holdingTask nonUtf8Request =
      some (.error ⟨.internal, .fromUtf8Error ⟨[0xFF], ⟨0, some 1⟩⟩⟩, holdingTask) ∧
    contractCode readyCommitter holdingTask nonUtf8Request = some .invalidArgument :=
  ⟨rfl, rfl⟩

end ArpaNode.Committer
