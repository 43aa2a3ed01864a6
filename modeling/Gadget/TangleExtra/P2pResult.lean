import Gadget.AggSigGossip.RunLoop
import Gadget.TangleExtra.Strategies

/-!
# What a result over gossip says of its signers

`aggregate_via_p2p` numbers the operators in the order in which it meets the keys of a hash map. It
takes the result that `run` returns, whatever message that is for.
-/

namespace Gadget.TangleExtra

open Rust AggregationSvc AggSigGossip GossipPrimitives List HashMap

section

variable {F G₁ G₂ Gt : Type} [Field F] [AddCommGroup G₁] [AddCommGroup G₂] [AddCommGroup Gt]
  [Module F G₁] [Module F G₂] [Module F Gt] [DecidableEq Gt]
  {PeerId : Type} [DecidableEq PeerId] {C : Curve F G₁ G₂ Gt} {keys : HashMap PeerId G₂}
  {result : AggregationResult C.arkBlsBn254 PeerId} {resp : AggregatedResultResponse}

/-- Bits and indices tell who of the operators has contributed, the key is the sum of the contributors' keys, and the
signature of those that are not malicious is on this message. -/
structure DescribesSigners (operators : List PeerId) (keys : HashMap PeerId G₂) (malicious : Finset PeerId)
    (message : Bytes) (result : AggregationResult C.arkBlsBn254 PeerId) (resp : AggregatedResultResponse) : Prop where
  signers : ∀ i peer, operators[i]? = some peer →
    (resp.signerBitmap.getLsbD i = true ↔ peer ∈ result.contributors)
  nonSigners : ∀ i peer, operators[i]? = some peer →
    (i ∈ resp.nonSignerIndices ↔ peer ∉ result.contributors)
  pubkey : ∃ key : PeerId → G₂, (∀ peer ∈ result.contributors, keys.lookup peer = some (key peer)) ∧
    resp.aggregatedPubkey = C.encode₂ (∑ peer ∈ result.contributors, key peer)
  signature : ∃ sig, resp.aggregatedSignature = C.encode₁ sig ∧
    C.verify (∑ peer ∈ result.contributors \ malicious, (keys.lookup peer).getD 0) message sig = true

/-- There are contributors, all of them operators, and the order of iteration has them where the operators have them, at
places that have a bit. -/
structure Placed (operators sortedPeers : List PeerId) (contributors : Finset PeerId) : Prop where
  nonempty : contributors.Nonempty
  subset : ∀ peer ∈ contributors, peer ∈ operators
  same : ∀ (i : ℕ) peer peer', operators[i]? = some peer → sortedPeers[i]? = some peer' →
    (peer ∈ contributors ↔ peer' ∈ contributors)
  bits : ∀ (i : ℕ) peer, operators[i]? = some peer → peer ∈ contributors → i < 256

lemma getLsbD_foldl (l : List ℕ) (bitmap : BitVec 256) (i : ℕ) :
    (l.foldl (fun bitmap idx => bitmap ||| (1#256 <<< idx)) bitmap).getLsbD i
      = (bitmap.getLsbD i || decide (i ∈ l ∧ i < 256)) := by
  induction l generalizing bitmap with
  | nil => simp
  | cons idx l ih =>
    rw [foldl_cons, ih, TaskState.getLsbD_signer, Bool.or_assoc, ← Bool.decide_or]
    congr 2
    grind

lemma sum_filterMap_lookup (l : List PeerId) (hl : l.Nodup) :
    (l.filterMap keys.lookup).sum = ∑ peer ∈ l.toFinset, (keys.lookup peer).getD 0 := by
  rw [sum_toFinset _ hl]
  clear hl
  induction l with
  | nil => rfl
  | cons peer l ih => cases hk : keys.lookup peer <;> simp [hk, ih]

lemma sum_signerPubkeys (contributors : Finset PeerId) (order : IterOrder PeerId) :
    (((order.toList keys.keys).filter (· ∈ contributors)).filterMap keys.lookup).sum
      = ∑ peer ∈ contributors, (keys.lookup peer).getD 0 := by
  rw [sum_filterMap_lookup _ ((order.nodup _).filter _)]
  refine Finset.sum_subset (fun peer h => ?_) fun peer hc hn => ?_
  · exact of_decide_eq_true (mem_filter.mp (mem_toFinset.mp h)).2
  · -- a peer without a key adds nothing
    rw [mem_toFinset, mem_filter, order.mem] at hn
    cases hk : keys.lookup peer with
    | none => rfl
    | some key => exact absurd ⟨(mem_keys_iff_lookup _ _).mpr ⟨key, hk⟩, decide_eq_true hc⟩ hn

/-- The signature that a message gives is on it, under the keys of the signers that are not malicious. -/
lemma verify_of_gives {p : SignatureAggregationProtocol C.arkBlsBn254 PeerId} {env : Env PeerId} {tried : Bytes}
    (h : p.Gives env tried result) :
    result.contributors = p.signersOf tried ∧
      C.verify (∑ peer ∈ result.contributors \ p.state.malicious, (p.participantPublicKeys.lookup peer).getD 0) tried
        result.signature = true := by
  obtain ⟨-, sig, pub, -, hagg, hv, rfl⟩ := h
  refine ⟨rfl, ?_⟩
  have hpub : pub = (((env.order.toList (p.signersOf tried)).filter (· ∉ p.state.malicious)).filterMap
      p.participantPublicKeys.lookup).sum := by
    have hagg : Curve.aggregate _ _ = .ok (sig, pub) := hagg
    unfold Curve.aggregate at hagg
    split_ifs at hagg
    cases hagg
    exact sum_eq_foldl.symm
  have hfin : ((env.order.toList (p.signersOf tried)).filter (· ∉ p.state.malicious)).toFinset
      = p.signersOf tried \ p.state.malicious := by
    ext peer
    simp [env.order.mem]
  rw [sum_filterMap_lookup _ ((env.order.nodup _).filter _), hfin] at hpub
  rw [← hpub]
  exact Except.ok.inj hv

/-- A signature is on another message too exactly when the points are the same, or the key is zero. -/
lemma verify_congr {pk : G₂} {sig : G₁} {tried message : Bytes} (h : C.verify pk tried sig = true) :
    C.verify pk message sig = true ↔ C.hashToCurve tried = C.hashToCurve message ∨ pk = 0 := by
  rw [Curve.verify, decide_eq_true_eq] at h ⊢
  rw [← h]
  constructor
  · intro heq
    have hz : C.pairing (C.hashToCurve tried - C.hashToCurve message) pk = 0 := by
      rw [map_sub, LinearMap.sub_apply, heq, sub_self]
    exact (C.nondegenerate _ _ hz).imp_left sub_eq_zero.mp
  · rintro (heq | rfl)
    · rw [heq]
    · simp

/-- There is no answer without a contributor that has a key, and an answer follows the order of iteration. -/
lemma aggregateViaP2p_cases (job : CallOutput) {order : IterOrder PeerId} {peers : List PeerId}
    (hpeers : order.toList keys.keys = peers) :
    (aggregateViaP2p C job keys order result).toOption = none ∧ (∀ peer ∈ result.contributors, peer ∉ keys.keys) ∨
    ∃ resp, aggregateViaP2p C job keys order result = .ok resp ∧ (∃ peer ∈ result.contributors, peer ∈ keys.keys) ∧
      (∀ i, resp.signerBitmap.getLsbD i = true ↔
        (∃ peer, peers[i]? = some peer ∧ peer ∈ result.contributors) ∧ i < 256) ∧
      (∀ i, i ∈ resp.nonSignerIndices ↔ ∃ peer, peers[i]? = some peer ∧ peer ∉ result.contributors) ∧
      resp.aggregatedSignature = C.encode₁ result.signature ∧
      resp.aggregatedPubkey
        = C.encode₂ ((peers.filter (· ∈ result.contributors)).filterMap keys.lookup).sum ∧
      (⟨resp.serviceId, resp.callId, resp.output⟩ : CallOutput) = job := by
  have hmem (peer : PeerId) : peer ∈ peers ↔ peer ∈ keys.keys := hpeers ▸ order.mem _ peer
  have hkeys (peer : PeerId) (hc : peer ∈ result.contributors) (hk : peer ∈ keys.keys) :
      (peers.filter (· ∈ result.contributors)).filterMap keys.lookup ≠ [] := by
    obtain ⟨key, hkey⟩ := (mem_keys_iff_lookup _ _).mp hk
    refine ne_nil_of_mem (mem_filterMap.mpr ⟨peer, ?_, hkey⟩)
    exact mem_filter.mpr ⟨(hmem peer).mpr hk, by simpa using hc⟩
  have hsome (hne : (peers.filter (· ∈ result.contributors)).filterMap keys.lookup ≠ []) :
      ∃ peer ∈ result.contributors, peer ∈ keys.keys := by
    obtain ⟨key, hkey⟩ := exists_mem_of_ne_nil _ hne
    obtain ⟨peer, hpeer, -⟩ := mem_filterMap.mp hkey
    obtain ⟨hk, hc⟩ := mem_filter.mp hpeer
    exact ⟨peer, of_decide_eq_true hc, (hmem peer).mp hk⟩
  have hbits (i : ℕ) : (foldl (fun (bitmap : BitVec 256) idx => bitmap ||| (1#256 <<< idx)) 0
        ((peers.zipIdx.filter fun peer : PeerId × ℕ => peer.1 ∈ result.contributors).map
          Prod.snd)).getLsbD i = true ↔
      (∃ peer, peers[i]? = some peer ∧ peer ∈ result.contributors) ∧ i < 256 := by
    rw [getLsbD_foldl]
    simp [mem_zipIdx_iff_getElem?]
  have hnon (i : ℕ) :
      i ∈ (peers.zipIdx.filter fun peer => peer.1 ∉ result.contributors).map Prod.snd ↔
      ∃ peer, peers[i]? = some peer ∧ peer ∉ result.contributors := by
    simp [mem_zipIdx_iff_getElem?]
  unfold aggregateViaP2p
  dsimp only
  rw [hpeers]
  generalize (peers.filter (· ∈ result.contributors)).filterMap keys.lookup = pubkeys at *
  rcases pubkeys with _ | ⟨key, _ | ⟨key', pubkeys⟩⟩
  · exact .inl ⟨rfl, fun peer hc hk => hkeys peer hc hk rfl⟩
  · exact .inr ⟨_, rfl, hsome (by simp), hbits, hnon, rfl, by simp, rfl⟩
  obtain ⟨sig, hsum⟩ : ∃ sig, Curve.aggregate ((key :: key' :: pubkeys).map fun _ => result.signature)
      (key :: key' :: pubkeys) = .ok (sig, (key :: key' :: pubkeys).foldl (· + ·) 0) := by
    refine ⟨((key :: key' :: pubkeys).map fun _ => result.signature).foldl (· + ·) 0, ?_⟩
    simp [Curve.aggregate]
  rw [hsum]
  exact .inr ⟨_, rfl, hsome (by simp), hbits, hnon, rfl, congrArg C.encode₂ sum_eq_foldl.symm, rfl⟩

/-- The protocol of a job: it is started with the message of the job, once. -/
def p2pRun [Hashing] (domain : Domain) (job : CallOutput) (config : ProtocolConfig C.arkBlsBn254 PeerId)
    (weightScheme : SignatureWeight PeerId) (keys : HashMap PeerId G₂) (env : Env PeerId)
    (es : List (Event C.arkBlsBn254 PeerId)) : SignatureAggregationProtocol C.arkBlsBn254 PeerId :=
  es.foldl SignatureAggregationProtocol.step
    ((SignatureAggregationProtocol.new config weightScheme keys).step (.start (domain.p2pMessage job) env))

section Runs

variable [Hashing] {domain : Domain} {job : CallOutput} {config : ProtocolConfig C.arkBlsBn254 PeerId}
  {weightScheme : SignatureWeight PeerId} {env₀ env : Env PeerId} {es : List (Event C.arkBlsBn254 PeerId)}
  {order : IterOrder Bytes} {isAggregator : Bool} {t : SignatureAggregationProtocol.Tick}

lemma keys_p2pRun : (p2pRun domain job config weightScheme keys env₀ es).participantPublicKeys = keys :=
  Lib.Run.foldl_of_step (J := fun p : SignatureAggregationProtocol C.arkBlsBn254 PeerId => p.participantPublicKeys = keys)
    (fun p e h => (p.step_leaves e).2.trans h) (SignatureAggregationProtocol.step_leaves _ _).2 es

lemma localMessage_p2pRun (hes : ∀ e ∈ es, ∀ message env, e ≠ .start message env) :
    (p2pRun domain job config weightScheme keys env₀ es).state.localMessage = domain.p2pMessage job := by
  unfold p2pRun
  induction es using List.reverseRecOn with
  | nil => exact SignatureAggregationProtocol.localMessage_start _ _ (by simp [SignatureAggregationProtocol.new, AggregationState.new])
  | append_singleton es e ih =>
    rw [foldl_append, foldl_cons, foldl_nil,
      SignatureAggregationProtocol.localMessage_step (hes e (by simp)), ih fun e he => hes e (by simp [he])]

end Runs

end

lemma nodup_operators : [0, 1].Nodup := by decide

noncomputable abbrev quietTwo : Env ℕ := ⟨0, .ok (), .ok (), .listed [0, 1] nodup_operators⟩

/-- Operator 1 sends its share on the message of the job, and both operators have the key 1. -/
noncomputable abbrev bothSigned [Hashing] : SignatureAggregationProtocol Curve.three.arkBlsBn254 ℕ :=
  p2pRun .plain ⟨1, 1, []⟩ ⟨⟨0, (1 : ZMod 3), []⟩⟩ ⟨fun _ => 1, 2, 2⟩ (HashMap.collect [(0, 1), (1, 1)]) quietTwo
    [.message ⟨⟨0, 0, 1, none⟩, .ok (.signatureShare 1 (1 : ZMod 3) (Domain.plain.p2pMessage ⟨1, 1, []⟩))⟩ quietTwo]

def heavyOne : SignatureWeight ℕ := ⟨fun q => if q = 1 then 5 else 1, 6, 2⟩

lemma nodup_messages : ([[7], [8]] : List Bytes).Nodup := by decide

noncomputable def heardOther : Option (AggregationResult Curve.three.arkBlsBn254 ℕ) :=
  let _ : Hashing := ⟨fun _ => Vector.replicate 32 0⟩
  let keys : HashMap ℕ (ZMod 3) := HashMap.collect [(0, 1), (1, 1)]
  let env := quietTwo
  let p := [.start [7] env, .message ⟨⟨0, 0, 1, none⟩, .ok (.signatureShare 1 (1 : ZMod 3) [8])⟩ env].foldl
    SignatureAggregationProtocol.step (SignatureAggregationProtocol.new ⟨⟨0, (1 : ZMod 3), []⟩⟩ heavyOne keys)
  (p.tick (.listed [[7], [8]] nodup_messages) env true .check).bind Except.toOption

end Gadget.TangleExtra
