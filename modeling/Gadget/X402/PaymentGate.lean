import Gadget.X402.Gateway

/-!
# The payment gate and the router

After a gateway has been built, a request that is served as a priced job is asked for that
job's price in every accepted token, unless one of the two path parameters is written with
percent encoding: the router decodes it, the price lookup does not, and finds no job to charge
for.
-/

namespace Gadget.X402

open Rust List Option

variable {D : Deps}

structure PriceTag.Charges (priceWei : ℕ) (t : AcceptedToken D) (tag : PriceTag D) : Prop where
  amount : ∃ text, t.convertWeiToAmount priceWei = .ok text ∧ parseU64 text = some tag.amount
  chainReference : t.chainId = some tag.chainReference
  asset : D.parseAddress t.asset = some tag.asset
  payTo : D.parseAddress t.payTo = some tag.payTo
  decimals : tag.decimals = t.decimals
  transferMethod : tag.transferMethod = t.assetTransferMethod

lemma X402Gateway.new_ok {ord : IterOrder (ℕ × ℕ)} {config : X402Config D}
    {jobPricing : JobPricing} {gw : X402Gateway D}
    (h : X402Gateway.new ord config jobPricing = .ok gw) :
    gw.config = config ∧ gw.jobPricing = jobPricing ∧ config.acceptedTokens ≠ [] ∧
    (∀ t ∈ config.acceptedTokens, t.validate = .ok ()) ∧
    validatePriceTagAmountBounds ord config jobPricing = .ok () := by
  obtain ⟨⟨⟩, hv, h⟩ := bind_eq_ok.mp h
  split_ifs at h with he
  obtain ⟨⟨⟩, hb, h⟩ := bind_eq_ok.mp h
  obtain ⟨⟨⟩, _, h⟩ := bind_eq_ok.mp h
  cases h
  exact ⟨rfl, rfl, he, X402Config.validate_tokens (orErr_eq_ok.mp hv), hb⟩

variable {job : ℕ × ℕ} {priceWei : ℕ} {path : Bytes}

variable {t : AcceptedToken D} {tokens : List (AcceptedToken D)}

lemma amount_of_bounds {ord : IterOrder (ℕ × ℕ)} {config : X402Config D} {jobPricing : JobPricing}
    (h : validatePriceTagAmountBounds ord config jobPricing = .ok ())
    (hp : jobPricing.lookup job = some priceWei) (ht : t ∈ config.acceptedTokens) :
    ∃ text amount, t.convertWeiToAmount priceWei = .ok text ∧ parseU64 text = some amount := by
  have he := forM_eq_ok.mp h (job, priceWei) ((ord.mem_entries _ _ _).mpr hp)
  have hc := forM_eq_ok.mp he t ht
  obtain ⟨text, hte, hf⟩ := bind_eq_ok.mp hc
  split_ifs at hf with hn
  rw [isNone_iff_eq_none, ← ne_eq, ne_none_iff_exists'] at hn
  obtain ⟨amount, ha⟩ := hn
  exact ⟨text, amount, hte, ha⟩

lemma AcceptedToken.priceTag_charges (hv : t.validate = .ok ()) {text : List Char} {amount : ℕ}
    (ht : t.convertWeiToAmount priceWei = .ok text) (ha : parseU64 text = some amount) :
    ∃ tag, t.priceTag priceWei = .ok (some tag) ∧ tag.Charges priceWei t := by
  obtain ⟨chain, id, asset, payTo, hch, hid, has, hpay⟩ := validate_ok hv
  have hc : t.chainId = some id := by rw [chainId, hch, bind_some, hid]
  refine ⟨⟨payTo, id, asset, t.decimals, t.assetTransferMethod, amount⟩, ?_, ?_⟩
  · simp [priceTag, ht, hc, has, hpay, ha]
  · exact ⟨⟨text, ht, ha⟩, hc, has, hpay, rfl, rfl⟩

lemma mapM_priceTag
    (h : ∀ t ∈ tokens, ∃ tag, t.priceTag priceWei = .ok (some tag) ∧ tag.Charges priceWei t) :
    ∃ tags, (tokens.mapM fun t => t.priceTag priceWei) = .ok (tags.map some) ∧
      List.Forall₂ (fun t tag => tag.Charges priceWei t) tokens tags := by
  induction tokens with
  | nil => exact ⟨[], rfl, .nil⟩
  | cons t tokens ih =>
    obtain ⟨tag, htag, hc⟩ := h t mem_cons_self
    obtain ⟨tags, ht, hall⟩ := ih fun t' ht' => h t' (mem_cons_of_mem _ ht')
    refine ⟨tag :: tags, ?_, .cons hc hall⟩
    rw [mapM_cons, htag, ht]
    rfl

lemma filter_eip155 (h : ∀ t ∈ tokens, t.validate = .ok ()) :
    (tokens.filter fun t => eip155.isPrefixOf t.network) = tokens := by
  apply filter_eq_self.mpr
  intro t ht
  obtain ⟨chain, _, _, _, hc, _⟩ := AcceptedToken.validate_ok (h t ht)
  rw [isPrefixOf?_eq_some_iff_append_eq] at hc
  exact isPrefixOf_iff_prefix.mpr ⟨chain, hc⟩

def X402Gateway.Charges (gateway : X402Gateway D) (path : Bytes) (priceWei : ℕ) : Prop :=
  ∃ tags, buildEvmPriceTags gateway.config gateway.jobPricing path = .ok tags ∧
    List.Forall₂ (fun t tag => tag.Charges priceWei t) gateway.config.acceptedTokens tags

def PlainJobPath (path : Bytes) : Prop :=
  ∀ serviceId jobIndex, matchJobRoute path = some (serviceId, jobIndex) →
    asciiByte '%' ∉ serviceId ∧ asciiByte '%' ∉ jobIndex

lemma segments_of_matchJobRoute {serviceId jobIndex : Bytes}
    (h : matchJobRoute path = some (serviceId, jobIndex)) :
    (pathSegments path)[3]? = some serviceId ∧ (pathSegments path)[4]? = some jobIndex := by
  unfold matchJobRoute at h
  split at h
  · next hs =>
    split_ifs at h
    cases h
    rw [hs]
    exact ⟨rfl, rfl⟩
  · cases h

section Lookup

variable {config : X402Config D} {jobPricing : JobPricing} {path serviceId jobIndex : Bytes}
  (h : matchJobRoute path = some (serviceId, jobIndex))

include h

lemma buildEvmPriceTags_of_none
    (hn : parseSegment u64Max serviceId = none ∨ parseSegment u32Max jobIndex = none) :
    buildEvmPriceTags config jobPricing path = .ok [] := by
  obtain ⟨h3, h4⟩ := segments_of_matchJobRoute h
  simp only [buildEvmPriceTags, h3, h4, bind_some]
  obtain hs | hj := hn
  · rw [hs]
  · rw [hj]
    cases parseSegment u64Max serviceId <;> rfl

section

variable {s j : ℕ} (hs : parseSegment u64Max serviceId = some s)
  (hj : parseSegment u32Max jobIndex = some j)

include hs hj

lemma buildEvmPriceTags_of_some (hp : jobPricing.lookup (s, j) = some priceWei) :
    buildEvmPriceTags config jobPricing path = (do
      let tags ← (config.acceptedTokens.filter fun t => eip155.isPrefixOf t.network).mapM
        fun t => t.priceTag priceWei
      return tags.filterMap id) := by
  obtain ⟨h3, h4⟩ := segments_of_matchJobRoute h
  simp [buildEvmPriceTags, h3, h4, hs, hj, hp]

lemma buildEvmPriceTags_of_unpriced (hp : jobPricing.lookup (s, j) = none) :
    buildEvmPriceTags config jobPricing path = .ok [] := by
  obtain ⟨h3, h4⟩ := segments_of_matchJobRoute h
  simp [buildEvmPriceTags, h3, h4, hs, hj, hp]

end

lemma buildEvmPriceTags_of_not_plain (hpl : ¬ PlainJobPath path) :
    buildEvmPriceTags config jobPricing path = .ok [] := by
  have hpe : ¬ (asciiByte '%' ∉ serviceId ∧ asciiByte '%' ∉ jobIndex) := by
    intro hnot
    apply hpl
    intro sid' job' h'
    cases h.symm.trans h'
    exact hnot
  apply buildEvmPriceTags_of_none h
  obtain hp | hp := not_and_or.mp hpe
  · exact .inl (parseSegment_percent (not_not.mp hp))
  · exact .inr (parseSegment_percent (not_not.mp hp))

end Lookup

lemma servedJob_eq_some (h : servedJob path = some job) :
    ∃ serviceId jobIndex, matchJobRoute path = some (serviceId, jobIndex) ∧
      parseSegment u64Max (percentDecode serviceId) = some job.1 ∧
      parseSegment u32Max (percentDecode jobIndex) = some job.2 := by
  unfold servedJob at h
  split at h
  · cases h
  next serviceId jobIndex hr =>
  split at h
  · next s j hs hj =>
    cases h
    exact ⟨serviceId, jobIndex, hr, hs, hj⟩
  · cases h

lemma servedJob_of_plain (h : servedJob path = some job) (hp : PlainJobPath path) :
    ∃ serviceId jobIndex, matchJobRoute path = some (serviceId, jobIndex) ∧
      parseSegment u64Max serviceId = some job.1 ∧ parseSegment u32Max jobIndex = some job.2 := by
  obtain ⟨serviceId, jobIndex, hr, hs, hj⟩ := servedJob_eq_some h
  obtain ⟨hps, hpj⟩ := hp serviceId jobIndex hr
  rw [percentDecode_eq_self hps] at hs
  rw [percentDecode_eq_self hpj] at hj
  exact ⟨serviceId, jobIndex, hr, hs, hj⟩

section Built

variable {ord : IterOrder (ℕ × ℕ)} {config : X402Config D} {jobPricing : JobPricing}
  {gw : X402Gateway D} (hnew : X402Gateway.new ord config jobPricing = .ok gw)
  {path : Bytes} {job : ℕ × ℕ} (hserved : servedJob path = some job)

include hnew hserved

lemma X402Gateway.charges_of_plain (hp : jobPricing.lookup job = some priceWei)
    (hpl : PlainJobPath path) : gw.Charges path priceWei := by
  obtain ⟨hc, hpr, _, hv, hb⟩ := new_ok hnew
  obtain ⟨serviceId, jobIndex, hr, hs, hj⟩ := servedJob_of_plain hserved hpl
  unfold Charges
  rw [hc, hpr]
  -- no token is filtered out: the checks at the start were the same conversions
  have htag : ∀ t ∈ config.acceptedTokens,
      ∃ tag, t.priceTag priceWei = .ok (some tag) ∧ tag.Charges priceWei t := by
    intro t ht
    obtain ⟨text, amount, hte, ha⟩ := amount_of_bounds hb hp ht
    exact AcceptedToken.priceTag_charges (hv t ht) hte ha
  obtain ⟨tags, hta, hall⟩ := mapM_priceTag htag
  refine ⟨tags, ?_, hall⟩
  rw [buildEvmPriceTags_of_some hr hs hj hp, filter_eip155 hv, hta]
  show Except.ok ((tags.map some).filterMap id) = .ok tags
  rw [filterMap_map]
  exact congrArg Except.ok filterMap_some

omit hserved in
lemma X402Gateway.Charges.tags_ne_nil (h : gw.Charges path priceWei) :
    ∃ tags, buildEvmPriceTags gw.config gw.jobPricing path = .ok tags ∧ tags ≠ [] := by
  obtain ⟨tags, ht, hall⟩ := h
  refine ⟨tags, ht, ?_⟩
  rintro rfl
  obtain ⟨hc, _, hne, _, _⟩ := new_ok hnew
  exact hne (hc ▸ forall₂_nil_right_iff.mp hall)

end Built

/-- **The payment gate agrees with the router on plain paths, and only there.** A request that a
built gateway serves as a priced job is charged that job's price in every accepted token exactly
when neither parameter of its path is percent encoded. -/
theorem X402Gateway.charges_iff_plain {order : IterOrder (ℕ × ℕ)} {config : X402Config D}
    {jobPricing : JobPricing} {gateway : X402Gateway D}
    (hnew : X402Gateway.new order config jobPricing = .ok gateway) {path : Bytes} {job : ℕ × ℕ}
    (hserved : servedJob path = some job) {priceWei : ℕ}
    (hprice : jobPricing.lookup job = some priceWei) :
    gateway.Charges path priceWei ↔ PlainJobPath path := by
  constructor
  · intro hc
    by_contra hp
    obtain ⟨serviceId, jobIndex, hr, _, _⟩ := servedJob_eq_some hserved
    obtain ⟨tags, ht, hne⟩ := hc.tags_ne_nil hnew
    rw [buildEvmPriceTags_of_not_plain hr hp] at ht
    cases ht
    exact hne rfl
  · exact charges_of_plain hnew hserved hprice

abbrev wholeDeps : Deps where
  Decimal := ℕ
  fromStrExact text := .ok ((parseU64 text).getD 0)
  ofNat n := n
  add a b := .ok (a + b)
  mul a b := .ok (a * b)
  div a b := .ok (a / b)
  floor a := a
  leZero a := decide (a = 0)
  toText a := Nat.toDigits 10 a
  Address := List Char
  parseAddress text := if text.length = 42 then some text else none
  Url := Unit
  tryNewFacilitator _ := .ok ()

def zeroAddress : List Char := '0' :: 'x' :: List.replicate 40 '0'

def dollarToken : AcceptedToken wholeDeps where
  network := eip155 ++ ['8', '4', '5', '3']
  asset := zeroAddress
  symbol := ['U', 'S', 'D', 'C']
  decimals := 6
  payTo := zeroAddress
  ratePerNativeUnit := (3200 : ℕ)
  markupBps := 0
  transferMethod := ['p', 'e', 'r', 'm', 'i', 't', '2']
  eip3009Name := none
  eip3009Version := none

def dollarGateway : X402Gateway wholeDeps where
  config := ⟨(), 300, [dollarToken], .publicPaid, [], none⟩
  jobPricing := (∅ : JobPricing).insert (1, 0) (10 ^ 18)
  jobPolicies := ∅

def jobPath (serviceId : List Char) : Bytes :=
  (['/', 'x', '4', '0', '2', '/', 'j', 'o', 'b', 's', '/'] ++ serviceId ++ ['/', '0']).map asciiByte

lemma dollarGateway_new :
    X402Gateway.new (IterOrder.alone (1, 0)) dollarGateway.config dollarGateway.jobPricing
      = .ok dollarGateway := by
  rfl

theorem X402Gateway.charges_plain_path : servedJob (jobPath ['1']) = some (1, 0) ∧
    dollarGateway.Charges (jobPath ['1']) (10 ^ 18) := by
  have hserved : servedJob (jobPath ['1']) = some (1, 0) := rfl
  have hr : matchJobRoute (jobPath ['1']) = some ([asciiByte '1'], [asciiByte '0']) := rfl
  refine ⟨hserved, ?_⟩
  apply (charges_iff_plain dollarGateway_new hserved (Finmap.lookup_insert _)).mpr
  intro serviceId jobIndex hr'
  cases hr.symm.trans hr'
  decide

/-- `/x402/jobs/%31/0` is served as job 0 of service 1, and no payment is asked for it. -/
theorem X402Gateway.encoded_path_is_free :
    X402Gateway.new (IterOrder.alone (1, 0)) dollarGateway.config dollarGateway.jobPricing
      = .ok dollarGateway ∧
    servedJob (jobPath ['%', '3', '1']) = some (1, 0) ∧
    dollarGateway.jobPricing.lookup (1, 0) = some (10 ^ 18) ∧
    buildEvmPriceTags dollarGateway.config dollarGateway.jobPricing (jobPath ['%', '3', '1'])
      = .ok [] ∧
    ¬ dollarGateway.Charges (jobPath ['%', '3', '1']) (10 ^ 18) := by
  have ht : buildEvmPriceTags dollarGateway.config dollarGateway.jobPricing
      (jobPath ['%', '3', '1']) = .ok [] := rfl
  refine ⟨dollarGateway_new, rfl, Finmap.lookup_insert _, ht, ?_⟩
  rintro ⟨tags, heq, hall⟩
  cases ht.symm.trans heq
  exact absurd (forall₂_nil_right_iff.mp hall) (by simp [dollarGateway])

end Gadget.X402
