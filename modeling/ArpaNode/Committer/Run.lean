import ArpaNode.Committer.Server
/-! The committer server over any sequence of requests, each handled on the state the one
before left.  Over every cache that creates no entry when it adds a partial, no sequence of
requests creates or removes an entry, or changes the server's identity or group cache: the
server signs up only for tasks it observed itself.  Over the spec's cache, every partial an
entry holds at the end was there at the start, or was sent by a member of the group whose
partial public key verifies it for the entry's message.  A request whose message is a string's
bytes never meets `from_utf8`'s internal error. -/

namespace ArpaNode.Committer

open ArpaNode.Core ArpaNode.Node ArpaNode.Dal

variable {γ σ κ ε : Type}

/-- The server answering requests one after another; a request whose handler panics leaves the
state as it was, the panic coming before the handler's one write. -/
def serve (env : CommitterEnv γ σ κ ε) (server : BLSCommitterServiceServer γ σ) :
    List CommitPartialSignatureRequest → BLSCommitterServiceServer γ σ
  | [] => server
  | req :: reqs =>
    match commitPartialSignature env server req with
    | some (_, server') => serve env server' reqs
    | none => serve env server reqs

/-- A property of a server's state that each request keeps holds after any sequence of them. -/
theorem serve_induction (env : CommitterEnv γ σ κ ε)
    (P : BLSCommitterServiceServer γ σ → Prop)
    (step : ∀ server req r server', P server →
      commitPartialSignature env server req = some (r, server') → P server')
    (server : BLSCommitterServiceServer γ σ) (hp : P server)
    (reqs : List CommitPartialSignatureRequest) : P (serve env server reqs) := by
  induction reqs generalizing server with
  | nil => exact hp
  | cons req reqs ih =>
    simp only [serve]
    split
    · next r server' h => exact ih server' (step server req r server' hp h)
    · exact ih server hp

/-! ### No entry is created -/

/-- `server'` has the identity, the group cache and the result cache entries of `server`. -/
def SameEntries (env : CommitterEnv γ σ κ ε) (server server' : BLSCommitterServiceServer γ σ) :
    Prop :=
  server'.idAddress = server.idAddress ∧ server'.groupCache = server.groupCache ∧
    ∀ k, env.cache.contains server'.randomnessResultCache k =
      env.cache.contains server.randomnessResultCache k

theorem commitPartialSignature_sameEntries {env : CommitterEnv γ σ κ ε} (hc : env.cache.Lawful)
    {server server' : BLSCommitterServiceServer γ σ} {req : CommitPartialSignatureRequest}
    {r : Except (Status ε) CommitPartialSignatureReply}
    (h : commitPartialSignature env server req = some (r, server')) :
    SameEntries env server server' := by
  rcases commitPartialSignature_frame env server req h with rfl | ⟨-, a, b, s', -, -, hadd, rfl⟩
  · exact ⟨rfl, rfl, fun _ => rfl⟩
  · exact ⟨rfl, rfl, hc.add_keeps_keys _ _ _ _ _ _ hadd⟩

/-- Over a cache that creates no entry when it adds a partial, no sequence of requests creates
or removes a result cache entry, or changes the server's identity or group cache. -/
theorem serve_keeps_entries (env : CommitterEnv γ σ κ ε) (hc : env.cache.Lawful)
    (server : BLSCommitterServiceServer γ σ) (reqs : List CommitPartialSignatureRequest) :
    (serve env server reqs).idAddress = server.idAddress ∧
    (serve env server reqs).groupCache = server.groupCache ∧
    ∀ k, env.cache.contains (serve env server reqs).randomnessResultCache k =
      env.cache.contains server.randomnessResultCache k := by
  refine serve_induction env (SameEntries env server) ?_ server ⟨rfl, rfl, fun _ => rfl⟩ reqs
  rintro s req r s' ⟨hid, hg, hk⟩ h
  obtain ⟨hid', hg', hk'⟩ := commitPartialSignature_sameEntries hc h
  exact ⟨hid'.trans hid, hg'.trans hg, fun k => (hk' k).trans (hk k)⟩

/-- A member's partial for index 7 over the message `"x"`. -/
def partialForX : CommitPartialSignatureRequest :=
  ⟨"0x0000000000000000000000000000000000000002", 0, 1, 7, [1, 2, 3], [0x78]⟩

/-- Serving the accepted partial for index 7 writes to the cache, and keeps its entries. -/
theorem holdingTask_keeps_entries :
    readyCommitter.cache.Lawful ∧
    (serve readyCommitter holdingTask [partialForX]).randomnessResultCache ≠
      holdingTask.randomnessResultCache ∧
    (serve readyCommitter holdingTask [partialForX]).idAddress = holdingTask.idAddress ∧
    (serve readyCommitter holdingTask [partialForX]).groupCache = holdingTask.groupCache ∧
    ∀ k, readyCommitter.cache.contains
        (serve readyCommitter holdingTask [partialForX]).randomnessResultCache k =
      readyCommitter.cache.contains holdingTask.randomnessResultCache k :=
  ⟨entryCache_lawful, by decide,
    serve_keeps_entries readyCommitter entryCache_lawful holdingTask [partialForX]⟩

/-! ### Every stored partial was verified -/

/-- A partial signature `p` verifies, for the message `msg`, against the partial public key of
the member of the group that sent it. -/
def VerifiedPartial (env : CommitterEnv γ σ κ ε) (g : γ) (msg : RustString)
    (p : Address × List UInt8) : Prop :=
  ∃ m pk, env.group.getMember g p.1 = .ok m ∧ m.partialPublicKey = some pk ∧
    env.partialVerify pk msg.vec p.2 = .ok ()

/-- Every entry of `server'`'s cache is one of `server`'s, with its message, and holds only
partials it held in `server` or partials verified in `server`'s group. -/
def PartialsVerified (env : CommitterEnv γ (List (Nat × BLSResultCache)) κ ε)
    (server server' : BLSCommitterServiceServer γ (List (Nat × BLSResultCache))) : Prop :=
  server'.groupCache = server.groupCache ∧
  ∀ k e', server'.randomnessResultCache.lookup k = some e' →
    ∃ e, server.randomnessResultCache.lookup k = some e ∧
      e'.resultCache.message = e.resultCache.message ∧
      ∀ p ∈ e'.resultCache.partialSignatures, p ∈ e.resultCache.partialSignatures ∨
        VerifiedPartial env server.groupCache e.resultCache.message p

section Verified

variable {env : CommitterEnv γ (List (Nat × BLSResultCache)) κ ε}

theorem PartialsVerified.refl
    (server : BLSCommitterServiceServer γ (List (Nat × BLSResultCache))) :
    PartialsVerified env server server :=
  ⟨rfl, fun _ e h => ⟨e, h, rfl, fun _ hp => .inl hp⟩⟩

theorem PartialsVerified.trans
    {s₀ s₁ s₂ : BLSCommitterServiceServer γ (List (Nat × BLSResultCache))}
    (h₀₁ : PartialsVerified env s₀ s₁) (h₁₂ : PartialsVerified env s₁ s₂) :
    PartialsVerified env s₀ s₂ := by
  refine ⟨h₁₂.1.trans h₀₁.1, fun k e₂ he₂ => ?_⟩
  obtain ⟨e₁, he₁, hm₁₂, hp₁₂⟩ := h₁₂.2 k e₂ he₂
  obtain ⟨e₀, he₀, hm₀₁, hp₀₁⟩ := h₀₁.2 k e₁ he₁
  refine ⟨e₀, he₀, hm₁₂.trans hm₀₁, fun p hp => ?_⟩
  rcases hp₁₂ p hp with hp | hv
  · exact hp₀₁ p hp
  · rw [h₀₁.1, hm₀₁] at hv
    exact .inr hv

/-- An accepted request to the spec's cache adds the sender's verified partial to the entry of
its index, or nothing when the sender already contributed. -/
theorem commitPartialSignature_partialsVerified (hc : env.cache = entryCache)
    {server server' : BLSCommitterServiceServer γ (List (Nat × BLSResultCache))}
    {req : CommitPartialSignatureRequest} {r : Except (Status ε) CommitPartialSignatureReply}
    (h : commitPartialSignature env server req = some (r, server')) :
    PartialsVerified env server server' := by
  rcases commitPartialSignature_frame env server req h with rfl | ⟨rfl, -, -, -, -, -, -, -⟩
  · exact PartialsVerified.refl _
  obtain ⟨-, -, a, m, ha, hm, h⟩ := (commitPartialSignature_eq_ok env server req).mp h
  obtain ⟨pk, hpk, hv, -, h⟩ := (commitMemberPartial_eq_ok env server req).mp h
  obtain ⟨-, -, e, msg, b, s', hg, hu, rfl, hadd, rfl⟩ :=
    (commitRandomnessPartial_eq_ok env server req).mp h
  rw [hc] at hg hadd
  have hmsg : req.message = e.resultCache.message.vec := (fromUtf8_vec hu).symm
  have hnew : VerifiedPartial env server.groupCache e.resultCache.message
      (a, req.partialSignature) := ⟨m, pk, hm, hpk, hmsg ▸ hv⟩
  obtain ⟨e₀, he₀, ⟨-, rfl⟩ | ⟨-, -, rfl⟩⟩ := entryCache_add hadd
  · exact PartialsVerified.refl server
  refine ⟨rfl, fun k e' he' => ?_⟩
  dsimp only at he'
  rw [lookup_map_snd _ (fun (j : Nat) (e : BLSResultCache) => if j = req.signatureIndex then
    e.addPartial a req.partialSignature else e)] at he'
  obtain ⟨e₁, he₁, rfl⟩ := Option.map_eq_some'.mp he'
  refine ⟨e₁, he₁, ?_⟩
  split
  · next hk =>
    subst hk
    have he : e₁ = e := Option.some.inj (he₁.symm.trans hg)
    subst he
    refine ⟨rfl, fun p hp => ?_⟩
    rcases List.mem_append.mp hp with hp | hp
    · exact .inl hp
    · rw [List.mem_singleton.mp hp]
      exact .inr hnew
  · exact ⟨rfl, fun p hp => .inl hp⟩

end Verified

/-- Over the spec's result cache, after any sequence of requests every entry is one the cache
held, with its message, and each partial signature it holds was held at the start or was sent
by a member of the group whose partial public key verifies it for the entry's message. -/
theorem serve_partials_verified (env : CommitterEnv γ (List (Nat × BLSResultCache)) κ ε)
    (hc : env.cache = entryCache)
    (server : BLSCommitterServiceServer γ (List (Nat × BLSResultCache)))
    (reqs : List CommitPartialSignatureRequest) (k : Nat) (e' : BLSResultCache)
    (he' : (serve env server reqs).randomnessResultCache.lookup k = some e') :
    ∃ e, server.randomnessResultCache.lookup k = some e ∧
      e'.resultCache.message = e.resultCache.message ∧
      ∀ p ∈ e'.resultCache.partialSignatures, p ∈ e.resultCache.partialSignatures ∨
        ∃ m pk, env.group.getMember server.groupCache p.1 = .ok m ∧
          m.partialPublicKey = some pk ∧
          env.partialVerify pk e.resultCache.message.vec p.2 = .ok () := by
  have hrun : PartialsVerified env server (serve env server reqs) :=
    serve_induction env (PartialsVerified env server)
      (fun _ _ _ _ hp h => hp.trans (commitPartialSignature_partialsVerified hc h))
      server (PartialsVerified.refl server) reqs
  exact hrun.2 k e' he'

/-- The accepted partial for index 7 is member 2's, verified in the group. -/
theorem holdingTask_partials_verified :
    readyCommitter.cache = entryCache ∧
    (serve readyCommitter holdingTask [partialForX]).randomnessResultCache.lookup 7 =
      some ⟨⟨messageX, [(⟨2⟩, [1, 2, 3])]⟩⟩ ∧
    ∃ e, holdingTask.randomnessResultCache.lookup 7 = some e ∧
      messageX = e.resultCache.message ∧
      ∀ p ∈ [((⟨2⟩ : Address), ([1, 2, 3] : List UInt8))], p ∈ e.resultCache.partialSignatures ∨
        ∃ m pk, readyCommitter.group.getMember holdingTask.groupCache p.1 = .ok m ∧
          m.partialPublicKey = some pk ∧
          readyCommitter.partialVerify pk e.resultCache.message.vec p.2 = .ok () :=
  ⟨rfl, by decide, serve_partials_verified readyCommitter rfl holdingTask [partialForX] 7
    ⟨⟨messageX, [(⟨2⟩, [1, 2, 3])]⟩⟩ (by decide)⟩

/-! ### Messages that are strings -/

/-- A request whose message is the bytes of a string, as every node that signs a cached task's
message sends, is never answered with `from_utf8`'s internal error: that error is reached only by
bytes that are no string's. -/
theorem commitPartialSignature_string_message (env : CommitterEnv γ σ κ ε)
    (server : BLSCommitterServiceServer γ σ) (req : CommitPartialSignatureRequest) (str : String)
    (hm : req.message = str.toUTF8.data.toList) (e : FromUtf8Error)
    (server' : BLSCommitterServiceServer γ σ) :
    commitPartialSignature env server req ≠
      some (.error ⟨.internal, .fromUtf8Error e⟩, server') := fun h => by
  obtain ⟨r, hr, -⟩ := fromUtf8_of_octets (utf8Octets_flatMap_utf8EncodeChar str.data)
  have he := commitPartialSignature_fromUtf8Error env server req h
  rw [hm] at he
  cases he.symm.trans hr

/-- The accepted partial's message `"x"` is a string's bytes, so it never meets `from_utf8`'s
error. -/
theorem partialForX_string_message :
    partialForX.message = "x".toUTF8.data.toList ∧
    ∀ e server', commitPartialSignature readyCommitter holdingTask partialForX ≠
      some (.error ⟨.internal, .fromUtf8Error e⟩, server') :=
  ⟨rfl, commitPartialSignature_string_message readyCommitter holdingTask partialForX "x" rfl⟩

end ArpaNode.Committer
