import Gadget.X402.PaymentGate

/-!
# Settlement options of a quote

A quote lists what the job costs in each accepted token. The pricing engine computes the amounts with
its own copy of the gateway's conversion, from the price of the job times the surcharge for a TEE. The
gateway knows the price of the job only.
-/

namespace Gadget.PricingEngine

open Rust X402

variable {D : Deps}

/-- What a quote says about one accepted token. -/
structure SettlementOption where
  network : List Char
  asset : List Char
  symbol : List Char
  amount : List Char
  payTo : List Char
  scheme : List Char

/-- `convert_settlement_token` -/
def convertSettlementToken (token : AcceptedToken D) (priceWei : ℕ) :
    Outcome String SettlementOption := do
  let weiDecimal ←
    (match D.fromStrExact (Nat.toDigits 10 priceWei) with
    | .ok d => .ok d
    | .error e => .error (.err ("wei→Decimal: " ++ e)))
  let nativeAmount ← orPanic (D.div weiDecimal (D.ofNat (10 ^ 18)))
  let tokenAmount ← orPanic (D.mul nativeAmount token.ratePerNativeUnit)
  let ratio ← orPanic (D.div (D.ofNat token.markupBps) (D.ofNat 10000))
  let markup ← orPanic (D.add (D.ofNat 1) ratio)
  let finalAmount ← orPanic (D.mul tokenAmount markup)
  let smallestUnits ← orPanic (D.mul finalAmount (D.ofNat (wrap64 (10 ^ token.decimals))))
  return {
    network := token.network
    asset := token.asset
    symbol := token.symbol
    amount := D.toText (D.floor smallestUnits)
    payTo := token.payTo
    scheme := "exact".toList }

/-- `compute_settlement_options`: a token that cannot be converted is left out. -/
def computeSettlementOptions (priceWei : ℕ) :
    List (AcceptedToken D) → Outcome String (List SettlementOption)
  | [] => .ok []
  | token :: tokens =>
    match convertSettlementToken token priceWei with
    | .error (.panicked message) => .error (.panicked message)
    | .error (.err _) => computeSettlementOptions priceWei tokens
    | .ok option => do return option :: (← computeSettlementOptions priceWei tokens)

/-- The prices, tokens and TEE settings of the pricing engine. -/
structure Engine (D : Deps) where
  jobPricing : JobPricing
  acceptedTokens : List (AcceptedToken D)
  teeAvailable : Bool
  teeMultiplier : D.Decimal
  /-- `U256::from_str_radix` with radix 10. -/
  parseU256 : List Char → Except String ℕ

namespace Engine

variable (engine : Engine D)

/-- The price with the surcharge for a TEE. -/
def teePrice (priceWei : ℕ) : Outcome String ℕ := do
  let price ← orErr ((D.fromStrExact (Nat.toDigits 10 priceWei)).mapError ("price→Decimal: " ++ ·))
  let adjusted ← orPanic (D.mul price engine.teeMultiplier)
  orErr ((engine.parseU256 (D.toText (D.floor adjusted))).mapError ("Decimal→U256: " ++ ·))

/-- The settlement options that `get_job_price` answers with. -/
def settlementOptions (job : ℕ × ℕ) (requireTee : Bool) : Outcome String (List SettlementOption) := do
  orErr (rejectIf (requireTee = true ∧ engine.teeAvailable = false)
    "TEE execution is not available on this operator")
  let price ← orErr (okOr (engine.jobPricing.lookup job) ("No pricing configured for service "
    ++ toString job.1 ++ " job index " ++ toString job.2))
  let price ← if requireTee then engine.teePrice price else .ok price
  computeSettlementOptions price engine.acceptedTokens

end Engine

/-- An option demands what the price tag demands. -/
structure SettlementOption.Matches (option : SettlementOption) (tag : PriceTag D) : Prop where
  network : (List.isPrefixOf? eip155 option.network).bind parseU64 = some tag.chainReference
  asset : D.parseAddress option.asset = some tag.asset
  payTo : D.parseAddress option.payTo = some tag.payTo
  amount : parseU64 option.amount = some tag.amount

variable {priceWei : ℕ}

lemma convertSettlementToken_of_amount {token : AcceptedToken D} {text : List Char}
    (h : token.convertWeiToAmount priceWei = .ok text) :
    convertSettlementToken token priceWei = .ok ⟨token.network, token.asset, token.symbol, text,
      token.payTo, "exact".toList⟩ := by
  unfold AcceptedToken.convertWeiToAmount at h
  unfold convertSettlementToken
  cases hd : D.fromStrExact (Nat.toDigits 10 priceWei) with
  | error e =>
    rw [hd] at h
    cases h
  | ok d =>
    rw [hd] at h
    obtain ⟨_, ⟨⟩, h⟩ := bind_eq_ok.mp h
    obtain ⟨native, hnative, h⟩ := bind_eq_ok.mp h
    obtain ⟨amount, hamount, h⟩ := bind_eq_ok.mp h
    obtain ⟨ratio, hratio, h⟩ := bind_eq_ok.mp h
    obtain ⟨markup, hmarkup, h⟩ := bind_eq_ok.mp h
    obtain ⟨final, hfinal, h⟩ := bind_eq_ok.mp h
    obtain ⟨units, hunits, h⟩ := bind_eq_ok.mp h
    cases h
    have hstep : ∀ {x : Except String D.Decimal} {a : D.Decimal},
        (orPanic x : Outcome X402Error _) = .ok a → (orPanic x : Outcome String _) = .ok a :=
      fun h => orPanic_eq_ok.mpr (orPanic_eq_ok.mp h)
    exact bind_eq_ok.mpr ⟨d, rfl, bind_eq_ok.mpr ⟨native, hstep hnative,
      bind_eq_ok.mpr ⟨amount, hstep hamount, bind_eq_ok.mpr ⟨ratio, hstep hratio,
        bind_eq_ok.mpr ⟨markup, hstep hmarkup, bind_eq_ok.mpr ⟨final, hstep hfinal,
          bind_eq_ok.mpr ⟨units, hstep hunits, rfl⟩⟩⟩⟩⟩⟩⟩

/-- The engine's copy of the conversion fails where the gateway's does: the price is not a decimal, or the
arithmetic overflows. -/
lemma convertSettlementToken_of_error {token : AcceptedToken D} {e : Fault X402Error}
    (h : token.convertWeiToAmount priceWei = .error e) :
    (∃ text, e = .err text ∧ ∃ text', convertSettlementToken token priceWei = .error (.err text')) ∨
      ∃ message, e = .panicked message ∧ convertSettlementToken token priceWei = .error (.panicked message) := by
  unfold AcceptedToken.convertWeiToAmount at h
  unfold convertSettlementToken
  cases hd : D.fromStrExact (Nat.toDigits 10 priceWei) with
  | error text =>
    rw [hd] at h
    cases h
    exact .inl ⟨_, rfl, _, rfl⟩
  | ok d =>
    simp only [hd, ok_bind] at h ⊢
    -- one step after the other; the first that overflows is the panic of both
    cases hnative : D.div d (D.ofNat (10 ^ 18)) with
    | error m => simp_all [orPanic, error_bind]
    | ok native =>
    cases hamount : D.mul native token.ratePerNativeUnit with
    | error m => simp_all [orPanic, error_bind, ok_bind]
    | ok amount =>
    cases hratio : D.div (D.ofNat token.markupBps) (D.ofNat 10000) with
    | error m => simp_all [orPanic, error_bind, ok_bind]
    | ok ratio =>
    cases hmarkup : D.add (D.ofNat 1) ratio with
    | error m => simp_all [orPanic, error_bind, ok_bind]
    | ok markup =>
    cases hfinal : D.mul amount markup with
    | error m => simp_all [orPanic, error_bind, ok_bind]
    | ok final =>
    cases hunits : D.mul final (D.ofNat (wrap64 (10 ^ token.decimals))) with
    | error m => simp_all [orPanic, ok_bind]
    | ok units => simp_all [orPanic, ok_bind, pure, Except.pure]

/-- The conversion of the price overflows for no token. -/
def Computable (tokens : List (AcceptedToken D)) (priceWei : ℕ) : Prop :=
  ∀ token ∈ tokens, ∀ message, token.convertWeiToAmount priceWei ≠ .error (.panicked message)

/-- Two prices come to the same amount of every token. -/
def SameAmounts (tokens : List (AcceptedToken D)) (priceWei other : ℕ) : Prop :=
  ∀ token ∈ tokens, ∃ text text', token.convertWeiToAmount priceWei = .ok text ∧
    token.convertWeiToAmount other = .ok text' ∧ parseU64 text' = parseU64 text

lemma computeSettlementOptions_cons {token : AcceptedToken D} {tokens : List (AcceptedToken D)}
    {options : List SettlementOption} (h : computeSettlementOptions priceWei (token :: tokens) = .ok options) :
    (∃ text rest, token.convertWeiToAmount priceWei = .ok text ∧
        computeSettlementOptions priceWei tokens = .ok rest ∧
        options = ⟨token.network, token.asset, token.symbol, text, token.payTo, "exact".toList⟩ :: rest) ∨
      (∃ e, token.convertWeiToAmount priceWei = .error (.err e)) ∧
        computeSettlementOptions priceWei tokens = .ok options := by
  rw [computeSettlementOptions] at h
  cases hc : token.convertWeiToAmount priceWei with
  | ok text =>
    rw [convertSettlementToken_of_amount hc] at h
    obtain ⟨rest, hrest, heq⟩ := bind_eq_ok.mp h
    cases heq
    exact .inl ⟨text, rest, rfl, hrest, rfl⟩
  | error e =>
    rcases convertSettlementToken_of_error hc with ⟨text, rfl, text', ht⟩ | ⟨message, rfl, ht⟩
    · rw [ht] at h
      exact .inr ⟨⟨text, rfl⟩, h⟩
    · rw [ht] at h
      cases h

lemma length_computeSettlementOptions {tokens : List (AcceptedToken D)} {options : List SettlementOption}
    (h : computeSettlementOptions priceWei tokens = .ok options) : options.length ≤ tokens.length := by
  induction tokens generalizing options with
  | nil =>
    cases h
    exact le_rfl
  | cons token tokens ih =>
    rcases computeSettlementOptions_cons h with ⟨text, rest, -, hrest, rfl⟩ | ⟨-, hrest⟩
    · exact Nat.succ_le_succ (ih hrest)
    · exact (ih hrest).trans (Nat.le_succ _)

/-- The options for a price have no answer when a conversion overflows. -/
lemma computeSettlementOptions_isOk_iff {tokens : List (AcceptedToken D)} :
    (∃ options, computeSettlementOptions priceWei tokens = .ok options) ↔ Computable tokens priceWei := by
  induction tokens with
  | nil => exact iff_of_true ⟨[], rfl⟩ nofun
  | cons token tokens ih =>
    rw [Computable, List.forall_mem_cons, ← Computable, ← ih, computeSettlementOptions]
    cases hc : token.convertWeiToAmount priceWei with
    | ok text =>
      rw [convertSettlementToken_of_amount hc]
      simp only [ne_eq, reduceCtorEq, not_false_eq_true, implies_true, true_and]
      constructor
      · rintro ⟨options, h⟩
        obtain ⟨rest, hrest, -⟩ := bind_eq_ok.mp h
        exact ⟨rest, hrest⟩
      · rintro ⟨rest, hrest⟩
        exact ⟨_, bind_eq_ok.mpr ⟨rest, hrest, rfl⟩⟩
    | error e =>
      rcases convertSettlementToken_of_error hc with ⟨text, rfl, text', ht⟩ | ⟨message, rfl, ht⟩
      · rw [ht]
        simp
      · rw [ht]
        simp

/-- The options for one price match the tags for another exactly when both come to the same amounts. -/
lemma computeSettlementOptions_matches_iff {tokens : List (AcceptedToken D)} {tags : List (PriceTag D)}
    {other : ℕ} {options : List SettlementOption}
    (h : List.Forall₂ (fun token tag => tag.Charges priceWei token) tokens tags)
    (ho : computeSettlementOptions other tokens = .ok options) :
    List.Forall₂ SettlementOption.Matches options tags ↔ SameAmounts tokens priceWei other := by
  induction h generalizing options with
  | nil =>
    cases ho
    exact iff_of_true .nil nofun
  | @cons token tag tokens tags hc hcs ih =>
    obtain ⟨text, htext, hamount⟩ := hc.amount
    rw [SameAmounts, List.forall_mem_cons, ← SameAmounts]
    rcases computeSettlementOptions_cons ho with ⟨text', rest, htext', hrest, rfl⟩ | ⟨⟨e, he⟩, hrest⟩
    · rw [List.forall₂_cons, ih hrest]
      refine and_congr_left fun _ => ⟨fun hm => ⟨text, text', htext, htext', hm.amount.trans hamount.symm⟩, ?_⟩
      rintro ⟨t, t', ht, ht', heq⟩
      cases htext.symm.trans ht
      cases htext'.symm.trans ht'
      exact ⟨hc.chainReference, hc.asset, hc.payTo, heq.trans hamount⟩
    · refine iff_of_false (fun hm => ?_) ?_
      · have hlen := length_computeSettlementOptions hrest
        rw [hm.length_eq, List.length_cons, hcs.length_eq] at hlen
        omega
      · rintro ⟨⟨-, t', -, ht', -⟩, -⟩
        rw [he] at ht'
        cases ht'

/-- The price times the multiplier, rounded down, is the other price. -/
def Engine.Surcharges (engine : Engine D) (priceWei other : ℕ) : Prop :=
  ∃ price adjusted, D.fromStrExact (Nat.toDigits 10 priceWei) = .ok price ∧
    D.mul price engine.teeMultiplier = .ok adjusted ∧
    engine.parseU256 (D.toText (D.floor adjusted)) = .ok other

lemma Engine.teePrice_eq_ok {engine : Engine D} {other : ℕ} :
    engine.teePrice priceWei = .ok other ↔ engine.Surcharges priceWei other := by
  unfold Engine.teePrice Engine.Surcharges
  cases hp : D.fromStrExact (Nat.toDigits 10 priceWei) with
  | error e => simp [orErr, Except.mapError, error_bind]
  | ok price =>
    cases ha : D.mul price engine.teeMultiplier with
    | error e => simp [orErr, orPanic, Except.mapError, error_bind, ok_bind, ha]
    | ok adjusted =>
      cases hu : engine.parseU256 (D.toText (D.floor adjusted)) with
      | error e => simp [orErr, orPanic, Except.mapError, ok_bind, ha, hu]
      | ok n => simp [orErr, orPanic, Except.mapError, ok_bind, ha, hu]

/-- A request is answered with the options for the plain price, or with a TEE for the price with the surcharge. -/
lemma Engine.settlementOptions_eq_ok {engine : Engine D} {job : ℕ × ℕ} {tee : Bool}
    {options : List SettlementOption} (hpriced : engine.jobPricing.lookup job = some priceWei) :
    engine.settlementOptions job tee = .ok options ↔ (tee = true → engine.teeAvailable = true) ∧
      ∃ price, (if tee then engine.Surcharges priceWei price else price = priceWei) ∧
        computeSettlementOptions price engine.acceptedTokens = .ok options := by
  unfold Engine.settlementOptions
  cases tee with
  | false => simp [hpriced, rejectIf, orErr, okOr, ok_bind]
  | true =>
    cases hav : engine.teeAvailable with
    | false => simp [rejectIf, orErr, error_bind]
    | true => simp [hpriced, rejectIf, orErr, okOr, ok_bind, bind_eq_ok, Engine.teePrice_eq_ok]

lemma charges_of_mem {tokens : List (AcceptedToken D)} {tags : List (PriceTag D)}
    (h : List.Forall₂ (fun token tag => tag.Charges priceWei token) tokens tags) {token : AcceptedToken D}
    (hm : token ∈ tokens) : ∃ tag : PriceTag D, tag.Charges priceWei token := by
  induction h with
  | nil => cases hm
  | @cons _ tag _ _ hc _ ih =>
    rcases List.mem_cons.mp hm with rfl | hm
    · exact ⟨tag, hc⟩
    · exact ih hm

/-- Every answer to a request has the price tags of the job as its options, token by token. -/
def Settles (engine : Engine D) (gateway : X402Gateway D) (path : Bytes) (job : ℕ × ℕ) (requireTee : Bool) :
    Prop :=
  ∀ options, engine.settlementOptions job requireTee = .ok options →
    ∃ tags, buildEvmPriceTags gateway.config gateway.jobPricing path = .ok tags ∧
      List.Forall₂ SettlementOption.Matches options tags

/-- **Settlement.** For a gateway built from the same prices and tokens, a request without a TEE is answered,
and the options of an answer are the price tags of the job exactly when no TEE is asked for or the price with
the surcharge comes to the same amounts. -/
theorem settles_iff (engine : Engine D) (order : IterOrder (ℕ × ℕ)) (config : X402Config D)
    (gateway : X402Gateway D) (htokens : engine.acceptedTokens = config.acceptedTokens)
    (hnew : X402Gateway.new order config engine.jobPricing = .ok gateway) (path : Bytes)
    (job : ℕ × ℕ) (hserved : servedJob path = some job) (hplain : PlainJobPath path)
    (hpriced : engine.jobPricing.lookup job = some priceWei) (requireTee : Bool) :
    (∃ options, engine.settlementOptions job false = .ok options) ∧
    (Settles engine gateway path job requireTee ↔
      (requireTee = true → engine.teeAvailable = true → ∀ other, engine.Surcharges priceWei other →
        Computable engine.acceptedTokens other → SameAmounts engine.acceptedTokens priceWei other)) := by
  obtain ⟨tags, htags, hall⟩ := X402Gateway.charges_of_plain hnew hserved hpriced hplain
  rw [(X402Gateway.new_ok hnew).1, ← htokens] at hall
  have hsame : SameAmounts engine.acceptedTokens priceWei priceWei := by
    intro token hm
    obtain ⟨tag, hc⟩ := charges_of_mem hall hm
    obtain ⟨text, htext, -⟩ := hc.amount
    exact ⟨text, text, htext, htext, rfl⟩
  have hplainPrice : Computable engine.acceptedTokens priceWei := by
    intro token hm message hp
    obtain ⟨text, -, htext, -⟩ := hsame token hm
    rw [htext] at hp
    cases hp
  have hmatch {other : ℕ} {options : List SettlementOption}
      (ho : computeSettlementOptions other engine.acceptedTokens = .ok options) :
      (∃ tags, buildEvmPriceTags gateway.config gateway.jobPricing path = .ok tags ∧
        List.Forall₂ SettlementOption.Matches options tags) ↔
      SameAmounts engine.acceptedTokens priceWei other := by
    rw [← computeSettlementOptions_matches_iff hall ho]
    constructor
    · rintro ⟨tags', htags', hm⟩
      cases htags.symm.trans htags'
      exact hm
    · exact fun hm => ⟨tags, htags, hm⟩
  refine ⟨?_, ?_⟩
  · obtain ⟨options, ho⟩ := computeSettlementOptions_isOk_iff.mpr hplainPrice
    exact ⟨options, (Engine.settlementOptions_eq_ok hpriced).mpr ⟨by simp, priceWei, rfl, ho⟩⟩
  · constructor
    · intro h htee hav other hsur hcomp
      obtain ⟨options, ho⟩ := computeSettlementOptions_isOk_iff.mpr hcomp
      subst htee
      have hans : engine.settlementOptions job true = .ok options :=
        (Engine.settlementOptions_eq_ok hpriced).mpr ⟨fun _ => hav, other, hsur, ho⟩
      exact (hmatch ho).mp (h options hans)
    · intro h options hans
      obtain ⟨hav, other, hprice, ho⟩ := (Engine.settlementOptions_eq_ok hpriced).mp hans
      refine (hmatch ho).mpr ?_
      cases requireTee with
      | false =>
        cases hprice
        exact hsame
      | true => exact h rfl (hav rfl) other hprice (computeSettlementOptions_isOk_iff.mp ⟨options, ho⟩)

def dollarEngine : Engine wholeDeps :=
  ⟨dollarGateway.jobPricing, [dollarToken], true, (2 : ℕ), fun text => .ok (Nat.ofDigitChars 10 text 0)⟩

theorem settles_dollar : servedJob (jobPath ['1']) = some (1, 0) ∧
    Settles dollarEngine dollarGateway (jobPath ['1']) (1, 0) false := by
  have hr : matchJobRoute (jobPath ['1']) = some ([asciiByte '1'], [asciiByte '0']) := rfl
  refine ⟨rfl, (settles_iff dollarEngine (IterOrder.alone (1, 0)) dollarGateway.config
    dollarGateway rfl dollarGateway_new (jobPath ['1']) (1, 0) rfl ?_ (Finmap.lookup_insert _) false).2.mpr nofun⟩
  intro serviceId jobIndex hr'
  cases hr.symm.trans hr'
  decide

/-- With a TEE at twice the price the quote asks for 6400 dollars, and the gateway for 3200. -/
theorem tee_settlement_differs :
    (dollarEngine.settlementOptions (1, 0) true).map (List.map SettlementOption.amount)
      = .ok [Nat.toDigits 10 6400000000] ∧
    (buildEvmPriceTags dollarGateway.config dollarGateway.jobPricing (jobPath ['1'])).map
      (List.map PriceTag.amount) = .ok [3200000000] :=
  ⟨rfl, rfl⟩

end Gadget.PricingEngine
