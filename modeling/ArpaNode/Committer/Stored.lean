import ArpaNode.Committer.Run
/-! The committer's result cache as the map it stands for: for each entry and member, the partial
signature the entry holds from that member.  Over the spec's cache a request changes that map at
most at its own entry and sender, and only where the map held nothing, and the checks the
handler makes before the cache's write read no partial signature.  So after any sequence of
requests the map holds, where it held nothing, the partial of the first request for that entry
and sender that passes those checks: the first writer wins, and a later partial of the same
member is acknowledged and dropped.  Requests of distinct entry and sender pairs therefore leave
the same map in whatever order they arrive, and no entry comes to hold two partials from one
member. -/

namespace ArpaNode.Committer

open ArpaNode.Core ArpaNode.Node ArpaNode.Dal

variable {γ κ ε : Type}

/-! ### The map a cache stands for -/

/-- The partial signature the cache `c` holds from member `a` in the entry of index `k`. -/
def storedPartial (c : List (Nat × BLSResultCache)) (k : Nat) (a : Address) :
    Option (List UInt8) :=
  (c.lookup k).bind fun e => e.resultCache.partialSignatures.lookup a

/-- The message of the entry of index `k`, if the cache holds one. -/
def cachedMessage (c : List (Nat × BLSResultCache)) (k : Nat) : Option RustString :=
  (c.lookup k).map fun e => e.resultCache.message

/-- The spec's cache adds a partial where the entry exists, whether or not the member already
contributed. -/
theorem entryCache_add_ok {c : List (Nat × BLSResultCache)} {k : Nat} {e : BLSResultCache}
    (he : c.lookup k = some e) (a : Address) (sig : List UInt8) :
    ∃ b c', entryCache.addPartialSignature c k a sig = .ok (b, c') := by
  simp only [entryCache, he]
  split_ifs
  · exact ⟨_, _, rfl⟩
  · exact ⟨_, _, rfl⟩

/-- Adding a partial to the spec's cache keeps every message, and sets the map at that entry and
member where it held nothing; everywhere else the map is unchanged. -/
theorem entryCache_add_stored {c c' : List (Nat × BLSResultCache)} {k : Nat} {a : Address}
    {sig : List UInt8} {b : Bool} (h : entryCache.addPartialSignature c k a sig = .ok (b, c')) :
    cachedMessage c' = cachedMessage c ∧
      ∀ k' a', storedPartial c' k' a' =
        (storedPartial c k' a').or (if k' = k ∧ a' = a then some sig else none) := by
  simp only [entryCache] at h
  split at h
  · cases h
  · next e he =>
    split_ifs at h with hs
    · cases h
      refine ⟨rfl, fun k' a' => ?_⟩
      split_ifs with hka
      · obtain ⟨rfl, rfl⟩ := hka
        obtain ⟨x, hx⟩ := Option.isSome_iff_exists.mp hs
        simp [storedPartial, he, hx]
      · exact Option.or_none.symm
    · cases h
      have hmap := lookup_map_snd c (fun j e => if j = k then e.addPartial a sig else e)
      refine ⟨funext fun k' => ?_, fun k' a' => ?_⟩
      · simp only [cachedMessage, hmap, Option.map_map]
        congr 1
        funext e
        split <;> rfl
      · simp only [storedPartial, hmap]
        by_cases hk : k' = k
        · subst hk
          have hnone := Option.not_isSome_iff_eq_none.mp hs
          by_cases ha : a' = a
          · subst ha
            simp [he, hnone, BLSResultCache.addPartial, List.lookup_append]
          · have hne : (a' == a) = false := by simpa using ha
            simp [he, hne, ha, BLSResultCache.addPartial, List.lookup_append, List.lookup_cons]
        · simp [hk]

/-! ### The checks before the cache's write -/

/-- Whether `commit_partial_signature` passes every check on `req` before the cache's write: the
group is ready, this node is a committer, the sender's address parses to a member whose partial
public key verifies the partial, the task is a randomness task of the main chain, and the cache
holds an entry of the request's index whose message is the request's. -/
def admitted (env : CommitterEnv γ (List (Nat × BLSResultCache)) κ ε)
    (server : BLSCommitterServiceServer γ (List (Nat × BLSResultCache)))
    (req : CommitPartialSignatureRequest) : Bool :=
  match env.group.getState server.groupCache with
  | .ok true =>
    match env.group.isCommitter server.groupCache server.idAddress with
    | .ok true =>
      match parseAddress req.idAddress with
      | some a =>
        match env.group.getMember server.groupCache a with
        | .ok m =>
          partialVerifies env m req && decide (env.taskTypeFrom req.taskType = some .randomness) &&
            decide (req.chainId = 0) &&
            match cachedMessage server.randomnessResultCache req.signatureIndex with
            | some msg => decide (req.message = msg.vec)
            | none => false
        | .error _ => false
      | none => false
    | _ => false
  | _ => false

section Admitted

variable {env : CommitterEnv γ (List (Nat × BLSResultCache)) κ ε}
  {server : BLSCommitterServiceServer γ (List (Nat × BLSResultCache))}
  {req : CommitPartialSignatureRequest}

theorem admitted_eq_true :
    admitted env server req = true ↔
      env.group.getState server.groupCache = .ok true ∧
      env.group.isCommitter server.groupCache server.idAddress = .ok true ∧
      ∃ a m pk msg, parseAddress req.idAddress = some a ∧
        env.group.getMember server.groupCache a = .ok m ∧ m.partialPublicKey = some pk ∧
        env.partialVerify pk req.message req.partialSignature = .ok () ∧
        env.taskTypeFrom req.taskType = some .randomness ∧ req.chainId = 0 ∧
        cachedMessage server.randomnessResultCache req.signatureIndex = some msg ∧
        req.message = msg.vec := by
  unfold admitted
  split
  · next hs =>
    split
    · next hc =>
      split
      · next a ha =>
        split
        · next m hm =>
          cases hpk : m.partialPublicKey with
          | none => simp [partialVerifies, hpk, hs, hc, ha, hm]
          | some pk =>
            cases hmsg : cachedMessage server.randomnessResultCache req.signatureIndex <;>
              cases hv : env.partialVerify pk req.message req.partialSignature <;>
              simp [partialVerifies, hpk, hs, hc, ha, hm, hmsg, hv, Except.toBool, and_assoc]
        · next err hm => simp [hs, hc, ha, hm]
      · next ha => simp [ha]
    · next hc => simp only [Bool.false_eq_true, false_iff]; exact fun h => hc h.2.1
  · next hs => simp only [Bool.false_eq_true, false_iff]; exact fun h => hs h.1

/-- Over the spec's cache, the handler accepts a request exactly when it is admitted. -/
theorem commitPartialSignature_accepted_iff (hc : env.cache = entryCache) :
    (∃ s', commitPartialSignature env server req = some (.ok ⟨true⟩, s')) ↔
      admitted env server req = true := by
  rw [admitted_eq_true]
  constructor
  · rintro ⟨s', h⟩
    obtain ⟨hs, hcm, a, m, ha, hm, h⟩ := (commitPartialSignature_eq_ok env server req).mp h
    obtain ⟨pk, hpk, hv, ht, h⟩ := (commitMemberPartial_eq_ok env server req).mp h
    obtain ⟨hid, -, e, msg, -, -, hg, hu, rfl, -, -⟩ :=
      (commitRandomnessPartial_eq_ok env server req).mp h
    rw [hc] at hg
    exact ⟨hs, hcm, a, m, pk, _, ha, hm, hpk, hv, ht, hid, congrArg (Option.map _) hg,
      (fromUtf8_vec hu).symm⟩
  · rintro ⟨hs, hcm, a, m, pk, msg, ha, hm, hpk, hv, ht, hid, hmsg, hreq⟩
    obtain ⟨e, he, rfl⟩ := Option.map_eq_some'.mp hmsg
    obtain ⟨b, c', hadd⟩ := entryCache_add_ok he a req.partialSignature
    refine ⟨_, (commitPartialSignature_eq_ok env server req).mpr ⟨hs, hcm, a, m, ha, hm,
      (commitMemberPartial_eq_ok env server req).mpr ⟨pk, hpk, hv, ht,
        (commitRandomnessPartial_eq_ok env server req).mpr ⟨hid, ?_, e, _, b, c', ?_,
          hreq ▸ fromUtf8_self _, rfl, hc ▸ hadd, rfl⟩⟩⟩⟩
    · simp [hc, entryCache, he]
    · rw [hc]
      exact he

/-- Over the spec's cache, an admitted request whose entry already holds a partial from its
sender is acknowledged with `Ok(true)`, and changes nothing. -/
theorem commitPartialSignature_of_stored (hc : env.cache = entryCache) {a : Address}
    (ha : parseAddress req.idAddress = some a) (hadm : admitted env server req = true)
    (hs : (storedPartial server.randomnessResultCache req.signatureIndex a).isSome) :
    commitPartialSignature env server req = some (.ok ⟨true⟩, server) := by
  obtain ⟨s', h⟩ := (commitPartialSignature_accepted_iff hc).mpr hadm
  obtain ⟨-, -, a', m, ha', -, h'⟩ := (commitPartialSignature_eq_ok env server req).mp h
  obtain ⟨-, -, -, -, h'⟩ := (commitMemberPartial_eq_ok env server req).mp h'
  obtain ⟨-, -, -, -, b, c', -, -, -, hadd, rfl⟩ :=
    (commitRandomnessPartial_eq_ok env server req).mp h'
  obtain rfl : a' = a := Option.some.inj (ha'.symm.trans ha)
  rw [hc] at hadd
  obtain ⟨e, he, ⟨-, rfl⟩ | ⟨-, hnone, -⟩⟩ := entryCache_add hadd
  · exact h
  · simp [storedPartial, he, hnone] at hs

end Admitted

/-- `server'` answers every check as `server` does: the same identity, group cache and entry
messages. -/
def SameChecks (server server' : BLSCommitterServiceServer γ (List (Nat × BLSResultCache))) :
    Prop :=
  server'.idAddress = server.idAddress ∧ server'.groupCache = server.groupCache ∧
    cachedMessage server'.randomnessResultCache = cachedMessage server.randomnessResultCache

theorem admitted_congr {env : CommitterEnv γ (List (Nat × BLSResultCache)) κ ε}
    {server server' : BLSCommitterServiceServer γ (List (Nat × BLSResultCache))}
    (h : SameChecks server server') : admitted env server' = admitted env server := by
  obtain ⟨hid, hg, hm⟩ := h
  funext req
  unfold admitted
  rw [hid, hg, hm]

/-- Over the spec's cache, every check answers alike along a run. -/
theorem serve_sameChecks {env : CommitterEnv γ (List (Nat × BLSResultCache)) κ ε}
    (hc : env.cache = entryCache)
    (server : BLSCommitterServiceServer γ (List (Nat × BLSResultCache)))
    (reqs : List CommitPartialSignatureRequest) : SameChecks server (serve env server reqs) := by
  refine serve_induction env (SameChecks server) ?_ server ⟨rfl, rfl, rfl⟩ reqs
  rintro s req r s' ⟨hid, hg, hm⟩ h
  rcases commitPartialSignature_frame env s req h with rfl | ⟨-, a, b, c', -, -, hadd, rfl⟩
  · exact ⟨hid, hg, hm⟩
  · exact ⟨hid, hg, (entryCache_add_stored (hc ▸ hadd)).1.trans hm⟩

/-! ### One request, then any sequence of them -/

theorem serve_cons (env : CommitterEnv γ (List (Nat × BLSResultCache)) κ ε)
    (server : BLSCommitterServiceServer γ (List (Nat × BLSResultCache)))
    (req : CommitPartialSignatureRequest) (reqs : List CommitPartialSignatureRequest) :
    serve env server (req :: reqs) = serve env (serve env server [req]) reqs := by
  cases h : commitPartialSignature env server req <;> simp [serve, h]

/-- One request over the spec's cache keeps every check's answer, and sets the map at its index
and sender, where the map held nothing, exactly when it is admitted. -/
theorem serve_one_storedPartial {env : CommitterEnv γ (List (Nat × BLSResultCache)) κ ε}
    (hc : env.cache = entryCache)
    (server : BLSCommitterServiceServer γ (List (Nat × BLSResultCache)))
    (req : CommitPartialSignatureRequest) :
    SameChecks server (serve env server [req]) ∧
    ∀ k a, storedPartial (serve env server [req]).randomnessResultCache k a =
      (storedPartial server.randomnessResultCache k a).or
        (if req.signatureIndex = k ∧ parseAddress req.idAddress = some a ∧
            admitted env server req = true then some req.partialSignature else none) := by
  by_cases hadm : admitted env server req = true
  · obtain ⟨s', h⟩ := (commitPartialSignature_accepted_iff hc).mpr hadm
    have hs : serve env server [req] = s' := by simp [serve, h]
    obtain ⟨-, -, a', m, ha, -, h⟩ := (commitPartialSignature_eq_ok env server req).mp h
    obtain ⟨-, -, -, -, h⟩ := (commitMemberPartial_eq_ok env server req).mp h
    obtain ⟨-, -, -, -, b, c', -, -, -, hadd, rfl⟩ :=
      (commitRandomnessPartial_eq_ok env server req).mp h
    rw [hc] at hadd
    obtain ⟨hmsg, hst⟩ := entryCache_add_stored hadd
    refine hs ▸ ⟨⟨rfl, rfl, hmsg⟩, fun k a => ?_⟩
    rw [hst k a]
    congr 1
    simp only [ha, hadm, Option.some.injEq, and_true, eq_comm]
  · have hs : serve env server [req] = server := by
      cases h : commitPartialSignature env server req with
      | none => simp [serve, h]
      | some p =>
        obtain ⟨r, s'⟩ := p
        rcases commitPartialSignature_frame env server req h with rfl | ⟨rfl, -⟩
        · simp [serve, h]
        · exact absurd ((commitPartialSignature_accepted_iff hc).mp ⟨s', h⟩) hadm
    rw [hs]
    exact ⟨⟨rfl, rfl, rfl⟩, fun k a => by simp [hadm]⟩

/-- Over the spec's cache, after any sequence of requests the map holds what it held, and where
it held nothing, the partial of the first request for that index and sender that is
admitted. -/
theorem storedPartial_serve {env : CommitterEnv γ (List (Nat × BLSResultCache)) κ ε}
    (hc : env.cache = entryCache)
    (server : BLSCommitterServiceServer γ (List (Nat × BLSResultCache)))
    (reqs : List CommitPartialSignatureRequest) (k : Nat) (a : Address) :
    storedPartial (serve env server reqs).randomnessResultCache k a =
      (storedPartial server.randomnessResultCache k a).or
        ((reqs.find? fun r => decide (r.signatureIndex = k ∧ parseAddress r.idAddress = some a ∧
          admitted env server r = true)).map CommitPartialSignatureRequest.partialSignature) := by
  induction reqs generalizing server with
  | nil => simp [serve]
  | cons req reqs ih =>
    obtain ⟨hsame, hstored⟩ := serve_one_storedPartial hc server req
    rw [serve_cons, ih, hstored, admitted_congr hsame, List.find?_cons]
    by_cases hp : req.signatureIndex = k ∧ parseAddress req.idAddress = some a ∧
        admitted env server req = true
    · simp only [hp, and_self, if_true, decide_True, Option.map_some', Option.or_assoc,
        Option.or_some]
    · simp only [hp, if_false, decide_False, Option.or_none]

/-! ### Order independence -/

/-- `find?` does not see the order of a list in which no two elements both satisfy `p`. -/
theorem find?_perm_of_pairwise {α : Type} {p : α → Bool} {l l' : List α} (hp : l.Perm l')
    (hu : l.Pairwise fun x y => ¬(p x = true ∧ p y = true)) : l.find? p = l'.find? p := by
  induction hp with
  | nil => rfl
  | cons x _ ih => rw [List.find?_cons, List.find?_cons, ih (List.pairwise_cons.mp hu).2]
  | swap x y l =>
    have hxy := (List.pairwise_cons.mp hu).1 x (List.mem_cons_self x l)
    simp only [List.find?_cons]
    cases hx : p x <;> cases hy : p y <;> simp_all
  | trans h₁ _ ih₁ ih₂ =>
    exact (ih₁ hu).trans (ih₂ ((h₁.pairwise_iff fun h hyx => h ⟨hyx.2, hyx.1⟩).mp hu))

/-- Elements with no duplicate among their keys have pairwise distinct keys. -/
theorem pairwise_of_nodup_filterMap {α β : Type} {f : α → Option β} {l : List α}
    (h : (l.filterMap f).Nodup) : l.Pairwise fun x y => ∀ b, f x = some b → f y ≠ some b := by
  induction l with
  | nil => exact .nil
  | cons x l ih =>
    cases hfx : f x with
    | none =>
      rw [List.filterMap_cons_none hfx] at h
      exact List.pairwise_cons.mpr ⟨fun _ _ b hb => absurd (hfx ▸ hb) (by simp), ih h⟩
    | some b₀ =>
      rw [List.filterMap_cons_some hfx] at h
      obtain ⟨hnot, hnd⟩ := List.nodup_cons.mp h
      refine List.pairwise_cons.mpr ⟨fun y hy b hb hyb => ?_, ih hnd⟩
      rw [hfx] at hb
      cases hb
      exact hnot (List.mem_filterMap.mpr ⟨y, hy, hyb⟩)

/-- The committer's stored partials as a map from entry and sender: over the spec's cache, after
any sequence of requests the map holds what it held, and where it held nothing, the partial of
the first request for that index and sender that passes the handler's checks; when no two
requests come from one sender for one index, every order of the requests leaves the same map;
and after a run in which a request for an index and sender passed the checks, a later request
for them that passes the checks is acknowledged with `Ok(true)` and dropped, the state
unchanged. -/
theorem serve_first_writer_wins (env : CommitterEnv γ (List (Nat × BLSResultCache)) κ ε)
    (hc : env.cache = entryCache)
    (server : BLSCommitterServiceServer γ (List (Nat × BLSResultCache))) :
    (∀ reqs k a, storedPartial (serve env server reqs).randomnessResultCache k a =
      (storedPartial server.randomnessResultCache k a).or
        ((reqs.find? fun r => decide (r.signatureIndex = k ∧ parseAddress r.idAddress = some a ∧
          admitted env server r = true)).map CommitPartialSignatureRequest.partialSignature)) ∧
    (∀ reqs reqs', reqs.Perm reqs' →
      (reqs.filterMap fun r => (parseAddress r.idAddress).map (r.signatureIndex, ·)).Nodup →
      ∀ k a, storedPartial (serve env server reqs).randomnessResultCache k a =
        storedPartial (serve env server reqs').randomnessResultCache k a) ∧
    ∀ reqs req a, parseAddress req.idAddress = some a → admitted env server req = true →
      (∃ r ∈ reqs, r.signatureIndex = req.signatureIndex ∧ parseAddress r.idAddress = some a ∧
        admitted env server r = true) →
      commitPartialSignature env (serve env server reqs) req =
        some (.ok ⟨true⟩, serve env server reqs) := by
  refine ⟨storedPartial_serve hc server, fun reqs reqs' hp hd k a => ?_,
    fun reqs req a ha hadm ⟨r, hr, hk, har, hadmr⟩ => ?_⟩
  · rw [storedPartial_serve hc, storedPartial_serve hc, find?_perm_of_pairwise hp]
    refine (pairwise_of_nodup_filterMap hd).imp fun {x y} hxy ⟨hx, hy⟩ => ?_
    obtain ⟨hkx, hax, -⟩ := of_decide_eq_true hx
    obtain ⟨hky, hay, -⟩ := of_decide_eq_true hy
    exact hxy (k, a) (by simp [hkx, hax]) (by simp [hky, hay])
  · have hsame := serve_sameChecks hc server reqs
    refine commitPartialSignature_of_stored hc ha (by rwa [admitted_congr hsame]) ?_
    have hfound : (reqs.find? fun r => decide (r.signatureIndex = req.signatureIndex ∧
        parseAddress r.idAddress = some a ∧ admitted env server r = true)).isSome :=
      List.find?_isSome.mpr ⟨r, hr, by simp [hk, har, hadmr]⟩
    rw [storedPartial_serve hc]
    rcases storedPartial server.randomnessResultCache req.signatureIndex a with _ | p
    · simpa using hfound
    · rfl

/-! ### One partial per member -/

/-- Each entry of `c` holds at most one partial from each member. -/
def PartialsDistinct (c : List (Nat × BLSResultCache)) : Prop :=
  ∀ k e, c.lookup k = some e → (e.resultCache.partialSignatures.map Prod.fst).Nodup

/-- The spec's cache adds a partial only from a member the entry holds none from. -/
theorem entryCache_add_distinct {c c' : List (Nat × BLSResultCache)} {k : Nat} {a : Address}
    {sig : List UInt8} {b : Bool} (hd : PartialsDistinct c)
    (h : entryCache.addPartialSignature c k a sig = .ok (b, c')) : PartialsDistinct c' := by
  obtain ⟨e, he, ⟨-, rfl⟩ | ⟨-, hnone, rfl⟩⟩ := entryCache_add h
  · exact hd
  intro k' e' he'
  rw [lookup_map_snd c (fun j e => if j = k then e.addPartial a sig else e)] at he'
  obtain ⟨e₁, he₁, rfl⟩ := Option.map_eq_some'.mp he'
  split
  · next hk =>
    subst hk
    obtain rfl : e₁ = e := Option.some.inj (he₁.symm.trans he)
    have hnew : ∀ p ∈ e₁.resultCache.partialSignatures, p.1 ≠ a := fun p hp h => by
      simpa [h] using List.lookup_eq_none_iff.mp hnone p hp
    simp only [BLSResultCache.addPartial, List.map_append, List.map_cons, List.map_nil]
    refine List.pairwise_append.mpr ⟨hd _ _ he₁, List.pairwise_singleton _ _, ?_⟩
    intro x hx y hy
    obtain ⟨p, hp, rfl⟩ := List.mem_map.mp hx
    rw [List.mem_singleton.mp hy]
    exact hnew p hp
  · exact hd k' e₁ he₁

/-- Over the spec's cache, no sequence of requests gives an entry two partials from one member,
so that counting an entry's partials counts distinct members. -/
theorem serve_partials_distinct (env : CommitterEnv γ (List (Nat × BLSResultCache)) κ ε)
    (hc : env.cache = entryCache)
    (server : BLSCommitterServiceServer γ (List (Nat × BLSResultCache)))
    (hd : PartialsDistinct server.randomnessResultCache)
    (reqs : List CommitPartialSignatureRequest) :
    PartialsDistinct (serve env server reqs).randomnessResultCache := by
  refine serve_induction env (fun s => PartialsDistinct s.randomnessResultCache) ?_ server hd reqs
  intro s req r s' hs h
  rcases commitPartialSignature_frame env s req h with rfl | ⟨-, a, b, c', -, -, hadd, rfl⟩
  · exact hs
  · exact entryCache_add_distinct hs (hc ▸ hadd)

/-- Member 2's second partial for index 7, over the same message. -/
def laterPartialX : CommitPartialSignatureRequest :=
  ⟨"0x0000000000000000000000000000000000000002", 0, 1, 7, [4, 5, 6], [0x78]⟩

/-- Member 3's partial for index 7. -/
def partialForY : CommitPartialSignatureRequest :=
  ⟨"0x0000000000000000000000000000000000000003", 0, 1, 7, [7, 8, 9], [0x78]⟩

/-- Member 2's later partial for index 7 is acknowledged and dropped, and two members' partials
leave the same map in either order. -/
theorem holdingTask_first_writer_wins :
    readyCommitter.cache = entryCache ∧
    storedPartial
      (serve readyCommitter holdingTask [partialForX, laterPartialX]).randomnessResultCache 7 ⟨2⟩ =
      some [1, 2, 3] ∧
    storedPartial
      (serve readyCommitter holdingTask [partialForY, partialForX]).randomnessResultCache 7 ⟨3⟩ =
      storedPartial
        (serve readyCommitter holdingTask [partialForX, partialForY]).randomnessResultCache 7 ⟨3⟩ ∧
    commitPartialSignature readyCommitter (serve readyCommitter holdingTask [partialForX])
      laterPartialX = some (.ok ⟨true⟩, serve readyCommitter holdingTask [partialForX]) :=
  have h := serve_first_writer_wins readyCommitter rfl holdingTask
  ⟨rfl, by rw [h.1]; decide, h.2.1 _ _ (List.Perm.swap _ _ []) (by decide) 7 ⟨3⟩,
    h.2.2 [partialForX] laterPartialX ⟨2⟩ (by decide) (by decide)
      ⟨partialForX, List.mem_singleton_self _, rfl, by decide, by decide⟩⟩

/-- Three partials, two of them from member 2, leave one partial per member in the entry of
index 7. -/
theorem holdingTask_partials_distinct :
    readyCommitter.cache = entryCache ∧ PartialsDistinct holdingTask.randomnessResultCache ∧
    PartialsDistinct (serve readyCommitter holdingTask
      [partialForX, laterPartialX, partialForY]).randomnessResultCache :=
  have hd : PartialsDistinct holdingTask.randomnessResultCache := fun k e h => by
    by_cases hk : k = 7
    · subst hk
      obtain rfl := Option.some.inj h.symm
      exact List.nodup_nil
    · have hne : (k == 7) = false := by simpa using hk
      simp [holdingTask, List.lookup_cons, hne] at h
  ⟨rfl, hd, serve_partials_distinct readyCommitter rfl holdingTask hd _⟩

end ArpaNode.Committer
