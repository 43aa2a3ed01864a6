import Gadget.Auth.Challenge
import Gadget.Auth.Exchange
import Gadget.Rust.Utf8

/-!
# Issued API keys

`auth_verify` returns a key `<prefix><id>.<secret>` and stores its hash under `<prefix><id>`. The key
comes back in a header, is told apart from the other kinds of credentials by its characters, and is
split at its first dot to find the record. The prefix is what the service was registered with, which
is not checked.
-/

namespace Gadget.Auth

open Rust Lib.Run List

structure UrlSafe (D : AuthDeps) : Prop where
  alphabet : ∀ bytes, ∀ c ∈ D.base64 bytes, c.isAlphanum = true ∨ c = '-' ∨ c = '_'

def IsHeaderChar (c : Char) : Prop := 32 ≤ c.toNat ∧ c.toNat < 127 ∨ c.toNat = 9

def Presents (headers : HeaderMap) (key : GeneratedApiKey) : Prop :=
  headers.get "Authorization".toList = some (utf8 ("Bearer ".toList ++ key.fullKey))

/-- The key is classified as an API key, is found by its id and validates, and authorises requests
for its service until it expires. -/
structure Usable (D : AuthDeps) (key : GeneratedApiKey) (db : Db) : Prop where
  classified : AuthToken.parse key.fullKey = .ok (.apiKey key.fullKey)
  found : ∃ secret model, splitOnce '.' key.fullKey = some (key.keyId, secret) ∧
    ApiKeyModel.findByKeyId key.keyId db = some model ∧ model.validatesKey D key.fullKey = true
  authorises : ∀ headers now, Presents headers key → now < key.expiresAt →
    ∃ own, (extractAndValidateAuth D headers db now).1 = .ok (key.serviceId, own)

structure GoodStart (start : List Char) : Prop where
  dotless : '.' ∉ start
  barless : '|' ∉ start
  header : ∀ c ∈ start, IsHeaderChar c

def Backed (D : AuthDeps) (key : GeneratedApiKey) (db : Db) : Prop :=
  ∃ model, db.apiKeys.lookup key.keyId = some model ∧ model.keyId = key.keyId ∧
    model.keyHash = D.base64 (D.keccak256 key.fullKey) ∧ model.service = key.serviceId ∧
    key.expiresAt ≤ model.expiresAt ∧ model.isEnabled = true

lemma utf8EncodeChar_ne_nil (c : Char) : String.utf8EncodeChar c ≠ [] := by
  rw [← length_pos_iff_ne_nil, String.length_utf8EncodeChar]
  exact Char.utf8Size_pos c

variable {c : Char} {text : List Char} {key : GeneratedApiKey}

lemma utf8EncodeChar_of_isHeaderChar (h : IsHeaderChar c) :
    String.utf8EncodeChar c = [asciiByte c] := by
  have hlt : c.toNat < 127 ∨ c.toNat = 9 := h.imp_left And.right
  have hle : c.val.toNat ≤ 0x7F := show c.toNat ≤ 127 by omega
  rw [String.utf8EncodeChar, if_pos hle]
  rfl

lemma toNat_asciiByte_of_isHeaderChar (h : IsHeaderChar c) : (asciiByte c).toNat = c.toNat := by
  have hlt : c.toNat < 127 ∨ c.toNat = 9 := h.imp_left And.right
  exact UInt8.toNat_ofNat_of_lt' (by
    show c.toNat < 256
    omega)

lemma utf8_of_isHeaderChar (h : ∀ c ∈ text, IsHeaderChar c) : utf8 text = text.map asciiByte := by
  induction text with
  | nil => rfl
  | cons c text ih =>
    rw [utf8_cons, utf8EncodeChar_of_isHeaderChar (h c mem_cons_self),
      ih fun c' hc' => h c' (mem_cons_of_mem c hc')]
    rfl

lemma headerText_utf8 (h : ∀ c ∈ text, IsHeaderChar c) : headerText (utf8 text) = some text := by
  rw [utf8_of_isHeaderChar h, headerText, if_pos]
  · have hba : ∀ c ∈ text, Char.ofNat (asciiByte c).toNat = c := by
      intro c hc
      rw [toNat_asciiByte_of_isHeaderChar (h c hc), Char.ofNat_toNat]
    rw [map_map, Option.some.injEq]
    exact (map_congr_left hba).trans (map_id' text)
  · rw [all_eq_true]
    intro b hb
    obtain ⟨c, hc, rfl⟩ := mem_map.mp hb
    rw [toNat_asciiByte_of_isHeaderChar (h c hc)]
    exact decide_eq_true (h c hc)

lemma isHeaderChar_of_headerText {text' : List Char} (h : headerText (utf8 text) = some text')
    (hc : c ∈ text) : IsHeaderChar c := by
  unfold headerText at h
  split at h
  · rename_i hall
    rw [all_eq_true] at hall
    obtain ⟨b, hb⟩ := exists_mem_of_ne_nil _ (utf8EncodeChar_ne_nil c)
    have hv := of_decide_eq_true (hall b (mem_flatMap.mpr ⟨c, hc, hb⟩))
    obtain ⟨-, heq⟩ | ⟨-, hge⟩ := mem_utf8EncodeChar hb
    · rw [IsHeaderChar, ← heq]
      exact hv
    · omega
  · cases h

lemma stripStart_append (start text : List Char) :
    stripStart start (start ++ text) = some text := by
  induction start with
  | nil => rfl
  | cons c start ih =>
    rw [stripStart, cons_append, isPrefixOf?, if_pos (beq_self_eq_true c)]
    exact ih

lemma bearer_of_presents {headers : HeaderMap} (h : Presents headers key) :
    (∀ c ∈ key.fullKey, IsHeaderChar c) ∧ bearer headers = some key.fullKey ∨
      (∃ c ∈ key.fullKey, ¬ IsHeaderChar c) ∧ bearer headers = none := by
  have hv : headerString headers "Authorization".toList
      = headerText (utf8 ("Bearer ".toList ++ key.fullKey)) := by
    rw [headerString, h, Option.bind_some]
  by_cases hall : ∀ c ∈ key.fullKey, IsHeaderChar c
  · left
    have ht : ∀ c ∈ "Bearer ".toList ++ key.fullKey, IsHeaderChar c := by
      intro c hc
      obtain hc | hc := mem_append.mp hc
      · have hw : "Bearer ".toList.all fun c => decide (32 ≤ c.toNat ∧ c.toNat < 127) := by decide
        exact .inl (of_decide_eq_true (all_eq_true.mp hw c hc))
      · exact hall c hc
    rw [bearer, hv, headerText_utf8 ht, Option.bind_some, stripStart_append]
    exact ⟨hall, rfl⟩
  · right
    push Not at hall
    obtain ⟨c, hc, hbad⟩ := hall
    refine ⟨⟨c, hc, hbad⟩, ?_⟩
    rw [bearer, hv]
    rcases ht : headerText (utf8 ("Bearer ".toList ++ key.fullKey)) with _ | text
    · rfl
    exact absurd (isHeaderChar_of_headerText ht (mem_append_right _ hc)) hbad

variable {D : AuthDeps}

lemma UrlSafe.isHeaderChar (h : UrlSafe D) {bs : Bytes} (hc : c ∈ D.base64 bs) :
    IsHeaderChar c := by
  obtain ha | rfl | rfl := h.alphabet bs c hc
  · obtain ⟨hlow, hhigh⟩ := toNat_of_isAlphanum ha
    exact .inl ⟨by omega, by omega⟩
  · exact .inl (by decide)
  · exact .inl (by decide)

lemma UrlSafe.not_mem (h : UrlSafe D) (bytes : Bytes) :
    '.' ∉ D.base64 bytes ∧ '|' ∉ D.base64 bytes := by
  constructor
  · intro hmem
    exact absurd (h.alphabet bytes '.' hmem) (by decide)
  · intro hmem
    exact absurd (h.alphabet bytes '|' hmem) (by decide)

lemma splitOnce_append {sep : Char} {before : List Char} (h : sep ∉ before) (after : List Char) :
    splitOnce sep (before ++ sep :: after) = some (before, after) := by
  have hp : ∀ c ∈ before, decide (c ≠ sep) = true := by
    intro c hc
    refine decide_eq_true ?_
    rintro rfl
    exact h hc
  have hs : decide (sep ≠ sep) = false := decide_eq_false fun hne => hne rfl
  rw [splitOnce, dropWhile_append_of_pos hp, takeWhile_append_of_pos hp,
    dropWhile_cons_of_neg (by rw [hs]; decide),
    takeWhile_cons_of_neg (by rw [hs]; decide), append_nil]

lemma not_mem_of_splitOnce {sep : Char} {before after : List Char}
    (h : splitOnce sep text = some (before, after)) : sep ∉ before := by
  unfold splitOnce at h
  split at h
  · cases h
  cases h
  intro hmem
  have hall := all_eq_true.mp (all_takeWhile (p := fun c => decide (c ≠ sep))) _ hmem
  exact of_decide_eq_true hall rfl

variable {apiKey : List Char}

lemma bar_not_mem_of_parse (h : AuthToken.parse text = .ok (.apiKey apiKey)) : '|' ∉ text := by
  intro hbar
  unfold AuthToken.parse at h
  split at h
  · cases h
  · split at h <;> cases h

variable {db : Db}

lemma validateAuth_apiKey {now : ℕ} {accepted : ServiceId × BTreeMap}
    (h : AuthToken.parse apiKey = .ok (.apiKey apiKey)) :
    (validateAuth D (some apiKey) db now).1 = .ok accepted ↔
      ∃ model, findValidKey D apiKey db now = .ok model ∧
        (model.service, model.getDefaultHeaders D) = accepted := by
  simp only [validateAuth, h, handleApiKey]
  rcases findValidKey D apiKey db now with e | model <;> simp

variable {model : ApiKeyModel}

lemma validatesKey_iff {fullKey kid rest : List Char}
    (h : splitOnce '.' fullKey = some (kid, rest)) :
    model.validatesKey D fullKey = true ↔
      model.keyId = kid ∧ model.keyHash = D.base64 (D.keccak256 fullKey) := by
  simp only [ApiKeyModel.validatesKey, h, Bool.and_eq_true, beq_iff_eq]
  rw [eq_comm (a := kid)]

lemma findValidKey_iff {rest : List Char} {now : ℕ}
    (h : splitOnce '.' key.fullKey = some (key.keyId, rest)) :
    findValidKey D key.fullKey db now = .ok model ↔
      db.apiKeys.lookup key.keyId = some model ∧ model.keyId = key.keyId ∧
        model.keyHash = D.base64 (D.keccak256 key.fullKey) ∧ now < model.expiresAt ∧
        model.isEnabled = true := by
  rw [findValidKey_eq_ok]
  simp [h, validatesKey_iff h, ApiKeyModel.isExpired, not_le, and_assoc]

section Generated

variable (hsafe : UrlSafe D) {start : List Char} {serviceId : ServiceId} {expiresAt : ℕ}
  {headers : BTreeMap} {secret : Bytes}
  (hk : generateKey D start serviceId expiresAt headers secret = key)

include hsafe hk

lemma dot_mem_keyId_iff : '.' ∈ key.keyId ↔ '.' ∈ start := by
  subst hk
  show '.' ∈ start ++ D.base64 (secret.take 8) ↔ _
  rw [mem_append, or_iff_left (hsafe.not_mem _).1]

lemma bar_mem_fullKey_iff : '|' ∈ key.fullKey ↔ '|' ∈ start := by
  subst hk
  show '|' ∈ (start ++ D.base64 (secret.take 8)) ++ '.' :: D.base64 (secret.drop 8) ↔ _
  have hne : ('|' : Char) ≠ '.' := by decide
  simp [hne, (hsafe.not_mem _).2]

lemma isHeaderChar_fullKey_iff :
    (∀ c ∈ key.fullKey, IsHeaderChar c) ↔ ∀ c ∈ start, IsHeaderChar c := by
  subst hk
  show (∀ c ∈ (start ++ D.base64 (secret.take 8)) ++ '.' :: D.base64 (secret.drop 8),
    IsHeaderChar c) ↔ _
  have hdot : IsHeaderChar '.' := .inl (by decide)
  constructor
  · exact fun h c hc => h c (mem_append_left _ (mem_append_left _ hc))
  · intro h c hc
    simp only [mem_append, mem_cons] at hc
    obtain (hc | hc) | rfl | hc := hc
    · exact h c hc
    · exact hsafe.isHeaderChar hc
    · exact hdot
    · exact hsafe.isHeaderChar hc

lemma splitOnce_fullKey_iff :
    (∃ rest, splitOnce '.' key.fullKey = some (key.keyId, rest)) ↔ '.' ∉ start := by
  rw [← dot_mem_keyId_iff hsafe hk]
  constructor
  · rintro ⟨rest, hs⟩
    exact not_mem_of_splitOnce hs
  · subst hk
    exact fun hdot => ⟨D.base64 (secret.drop 8), splitOnce_append hdot _⟩

lemma not_accessTokenStart_fullKey (hdot : '.' ∉ start) :
    accessTokenStart.isPrefixOf key.fullKey = false := by
  rw [← Bool.not_eq_true, isPrefixOf_iff_prefix]
  intro hs
  have hc : key.fullKey.count '.' = 1 := by
    subst hk
    show ((start ++ D.base64 (secret.take 8)) ++ '.' :: D.base64 (secret.drop 8)).count '.' = 1
    simp [count_eq_zero_of_not_mem hdot, count_eq_zero_of_not_mem (hsafe.not_mem (secret.take 8)).1,
      count_eq_zero_of_not_mem (hsafe.not_mem (secret.drop 8)).1]
  have htwo : accessTokenStart.count '.' = 2 := by decide
  have hle := hs.sublist.count_le '.'
  omega

lemma parse_fullKey (hdot : '.' ∉ start) (hbar : '|' ∉ start) :
    AuthToken.parse key.fullKey = .ok (.apiKey key.fullKey) := by
  have ha := not_accessTokenStart_fullKey hsafe hk hdot
  have hn := mt (bar_mem_fullKey_iff hsafe hk).mp hbar
  have hone : '.' ∈ key.fullKey := hk ▸ mem_append_right _ mem_cons_self
  rw [AuthToken.parse, ha, if_neg Bool.false_ne_true, if_neg hn, if_pos hone]

/-- **Which keys work.** A key with a lifetime is usable exactly when its prefix has neither a dot
nor a bar, can stand in a header, and the stored record is one for the key. -/
theorem usable_iff (hex : 0 < expiresAt) (db : Db) :
    Usable D key db ↔ GoodStart start ∧ Backed D key db := by
  have hsp := splitOnce_fullKey_iff hsafe hk
  have hbar := bar_mem_fullKey_iff hsafe hk
  have hch := isHeaderChar_fullKey_iff hsafe hk
  have hpa := parse_fullKey hsafe hk
  have hli : key.expiresAt = expiresAt := hk ▸ rfl
  constructor
  · intro hu
    obtain ⟨rest, model, hr, hf, hv⟩ := hu.found
    -- a request that presents the key in its last second
    have hp : Presents ((∅ : HeaderMap).set "Authorization".toList
        (utf8 ("Bearer ".toList ++ key.fullKey))) key := by
      rw [Presents, HeaderMap.get, HeaderMap.set, Finmap.lookup_insert]
      rfl
    obtain ⟨own, ha⟩ := hu.authorises _ (expiresAt - 1) hp (by omega)
    rw [extractAndValidateAuth] at ha
    obtain ⟨hall, hb⟩ | ⟨-, hb⟩ := bearer_of_presents hp
    · rw [hb, validateAuth_apiKey hu.classified] at ha
      obtain ⟨found, hkey, hs⟩ := ha
      obtain ⟨hl, hid, hh, hnow, he⟩ := (findValidKey_iff hr).mp hkey
      refine ⟨⟨hsp.mp ⟨rest, hr⟩, ?_, hch.mp hall⟩, found, hl, hid, hh, ?_, ?_, he⟩
      · exact fun hmem => bar_not_mem_of_parse hu.classified (hbar.mpr hmem)
      · exact (Prod.mk.inj hs).1
      · omega
    · rw [hb] at ha
      cases ha
  · rintro ⟨hst, model, hl, hid, hh, hs, hexp, he⟩
    obtain ⟨rest, hr⟩ := hsp.mpr hst.dotless
    have hcl := hpa hst.dotless hst.barless
    refine ⟨hcl, ⟨rest, model, hr, hl, (validatesKey_iff hr).mpr ⟨hid, hh⟩⟩, ?_⟩
    intro requestHeaders now hp hnow
    obtain ⟨-, hb⟩ | ⟨⟨c, hc, hbad⟩, -⟩ := bearer_of_presents hp
    · refine ⟨model.getDefaultHeaders D, ?_⟩
      rw [extractAndValidateAuth, hb, validateAuth_apiKey hcl]
      refine ⟨model, (findValidKey_iff hr).mpr ⟨hl, hid, hh, by omega, he⟩, ?_⟩
      rw [hs]
    · exact absurd (hch.mpr hst.header c hc) hbad

end Generated

inductive ServeEvent where
  | verify (serviceId : ServiceId) (payload : VerifyChallengeRequest) (secret : Bytes)
      (write : Except String Unit) (now : ℕ)
  | exchange (headers : HeaderMap) (payload : TokenExchangeRequest) (now : ℕ) (jti : List Char)
  | proxied (request : ProxyRequest) (now : ℕ)

def serveKey (D : AuthDeps) (db : Db) : ServeEvent → Db
  | .verify serviceId payload secret write now => (authVerify D serviceId payload secret write now db).2
  | .exchange headers payload now jti => (authExchange D headers payload now jti db).2
  | .proxied request now => (unifiedProxy D request db now).2

def issuedKey (D : AuthDeps) (service : ServiceModel) (serviceId : ServiceId)
    (payload : VerifyChallengeRequest) (validated : BTreeMap) (secret : Bytes) (now : ℕ) :
    GeneratedApiKey :=
  generateKey D service.apiKeyPrefix serviceId (max payload.expiresAt (now + 90 * 24 * 60 * 60))
    (processHeadersWithPiiProtection D validated) secret

def Keeps (D : AuthDeps) (key : GeneratedApiKey) (db : Db) : ServeEvent → Prop
  | .verify serviceId payload secret write now =>
    Passes D db serviceId payload write →
      ∀ service validated, db.services.lookup serviceId = some service →
        validateHeaders D payload.additionalHeaders = .ok validated →
        (issuedKey D service serviceId payload validated secret now).keyId = key.keyId →
        D.base64 (D.keccak256 (issuedKey D service serviceId payload validated secret now).fullKey)
            = D.base64 (D.keccak256 key.fullKey) ∧
          serviceId = key.serviceId ∧
          key.expiresAt ≤ (issuedKey D service serviceId payload validated secret now).expiresAt
  | _ => True

section

variable {serviceId : ServiceId} {pl : VerifyChallengeRequest} {write : Except String Unit}

lemma authVerify_of_passes (h : Passes D db serviceId pl write) {service : ServiceModel}
    {vld : BTreeMap} (hs : db.services.lookup serviceId = some service)
    (hv : validateHeaders D pl.additionalHeaders = .ok vld) (secret : Bytes) (now : ℕ) :
    authVerify D serviceId pl secret write now db
      = ((.created, .verified (issuedKey D service serviceId pl vld secret now).fullKey
            (issuedKey D service serviceId pl vld secret now).expiresAt),
          ((issuedKey D service serviceId pl vld secret now).toModel D now).save db) := by
  obtain ⟨⟨svc', hs', ho⟩, hsi, -, hw⟩ := h
  rw [hs] at hs'
  cases hs'
  simp only [authVerify, hs, ho, if_true, hsi, hv, hw]
  rfl

lemma authVerify_of_not_passes (h : ¬ Passes D db serviceId pl write) (secret : Bytes) (now : ℕ) :
    (authVerify D serviceId pl secret write now db).2 = db := by
  unfold authVerify
  rcases hse : db.services.lookup serviceId with _ | service
  · rfl
  simp only
  split
  · rename_i ho
    split
    · rename_i hs
      split
      · rfl
      rename_i vld hv
      split
      · rfl
      · exact absurd ⟨⟨service, hse, ho⟩, hs, ⟨vld, hv⟩, rfl⟩ h
    · rfl
    · rfl
  · rfl

end

lemma lookup_save (model : ApiKeyModel) (db : Db) :
    ∃ number, ∀ k, (model.save db).apiKeys.lookup k
      = if k = model.keyId then some { model with id := number } else db.apiKeys.lookup k := by
  unfold ApiKeyModel.save
  split
  · refine ⟨(db.sequence + 1) % 2 ^ 64, fun k => ?_⟩
    exact HashMap.lookup_insert_eq db.apiKeys model.keyId k (model.numbered db)
  · refine ⟨model.id, fun k => ?_⟩
    exact HashMap.lookup_insert_eq db.apiKeys model.keyId k model

lemma backed_congr {db' : Db} (number lastUsed : ℕ)
    (hl : db.apiKeys.lookup key.keyId = some model) (hl' : db'.apiKeys.lookup key.keyId
      = some { model with id := number, lastUsed := lastUsed }) :
    Backed D key db' ↔ Backed D key db := by
  unfold Backed
  rw [hl, hl']
  simp only [Option.some.injEq, exists_eq_left']
  rfl

lemma backed_updateLastUsed_iff (hm : db.apiKeys.lookup model.keyId = some model) (now : ℕ) :
    Backed D key (model.updateLastUsed now db) ↔ Backed D key db := by
  obtain ⟨number, hl⟩ := lookup_save { model with lastUsed := now } db
  by_cases hkey : key.keyId = model.keyId
  · refine backed_congr number now (by rw [hkey, hm]) ?_
    exact (hl key.keyId).trans (if_pos hkey)
  · have hs : (model.updateLastUsed now db).apiKeys.lookup key.keyId
        = db.apiKeys.lookup key.keyId := (hl key.keyId).trans (if_neg hkey)
    rw [Backed, hs, Backed]

lemma backed_save_iff {issued : GeneratedApiKey} (now : ℕ) (h : Backed D key db) :
    Backed D key ((issued.toModel D now).save db) ↔
      (issued.keyId = key.keyId → D.base64 (D.keccak256 issued.fullKey)
          = D.base64 (D.keccak256 key.fullKey) ∧
        issued.serviceId = key.serviceId ∧ key.expiresAt ≤ issued.expiresAt) := by
  obtain ⟨number, hl⟩ := lookup_save (issued.toModel D now) db
  have hk : (issued.toModel D now).keyId = issued.keyId := rfl
  by_cases hkey : issued.keyId = key.keyId
  · have hs := (hl key.keyId).trans (if_pos (hkey.symm.trans hk.symm))
    rw [Backed, hs]
    simp only [Option.some.injEq, exists_eq_left', hkey, forall_const]
    constructor
    · exact fun hb => ⟨hb.2.1, hb.2.2.1, hb.2.2.2.1⟩
    · exact fun hsa => ⟨hkey, hsa.1, hsa.2.1, hsa.2.2, rfl⟩
  · have hs := (hl key.keyId).trans (if_neg fun heq => hkey (heq.trans hk).symm)
    rw [Backed, hs]
    exact ⟨fun _ heq => absurd heq hkey, fun _ => h⟩

lemma lookup_of_findValidKey {now : ℕ} (h : findValidKey D apiKey db now = .ok model) :
    db.apiKeys.lookup model.keyId = some model := by
  obtain ⟨⟨kid, rest⟩, hp, hl, hv, -, -⟩ := findValidKey_eq_ok.mp h
  rw [((validatesKey_iff hp).mp hv).1]
  exact hl

lemma backed_unifiedProxy_iff (req : ProxyRequest) (db : Db) (now : ℕ) :
    Backed D key (unifiedProxy D req db now).2 ↔ Backed D key db := by
  rw [unifiedProxy_db]
  obtain hs | ⟨apiKey, model, hf, hu⟩ := extractAndValidateAuth_db (D := D) req.headers db now
  · rw [hs]
  · rw [hu]
    exact backed_updateLastUsed_iff (lookup_of_findValidKey hf) now

lemma backed_authExchange_iff (headers : HeaderMap) (pl : TokenExchangeRequest) (now : ℕ)
    (jti : List Char) (db : Db) :
    Backed D key (authExchange D headers pl now jti db).2 ↔ Backed D key db := by
  unfold authExchange
  split
  · exact Iff.rfl
  · rename_i model hm
    obtain ⟨apiKey, -, hf⟩ := bind_eq_ok.mp hm
    exact backed_updateLastUsed_iff (lookup_of_findValidKey (exchangeKey_eq_ok.mp hf)) now

lemma backed_serveKey_iff (h : Backed D key db) (event : ServeEvent) :
    Backed D key (serveKey D db event) ↔ Keeps D key db event := by
  cases event with
  | verify serviceId pl secret write now =>
    simp only [serveKey, Keeps]
    by_cases hpa : Passes D db serviceId pl write
    · obtain ⟨service, hs, -⟩ := hpa.owner
      obtain ⟨vld, hv⟩ := hpa.headers
      rw [authVerify_of_passes hpa hs hv, backed_save_iff now h]
      constructor
      · intro hk _ svc' vld' hs' hv'
        rw [hs] at hs'
        rw [hv] at hv'
        cases hs'
        cases hv'
        exact hk
      · exact fun hk => hk hpa service vld hs hv
    · rw [authVerify_of_not_passes hpa]
      exact ⟨fun _ hp => absurd hp hpa, fun _ => h⟩
  | exchange headers pl now jti =>
    exact ⟨fun _ => trivial, fun _ => (backed_authExchange_iff headers pl now jti db).mpr h⟩
  | proxied req now =>
    exact ⟨fun _ => trivial, fun _ => (backed_unifiedProxy_iff req db now).mpr h⟩

/-- **Issued keys.** The key that `auth_verify` returns stays usable along a run of the endpoints
exactly when the prefix of its service has neither a dot nor a bar and can stand in a header, and no
later request is given another key with the same id. -/
theorem always_usable_iff (D : AuthDeps) (hsafe : UrlSafe D) (serviceId : ServiceId)
    (payload : VerifyChallengeRequest) (secret : Bytes) (write : Except String Unit) (now : ℕ)
    (db db' : Db) (service : ServiceModel) (hservice : db.services.lookup serviceId = some service)
    (status : StatusCode) (fullKey : List Char) (expiresAt : ℕ)
    (h : authVerify D serviceId payload secret write now db
      = ((status, .verified fullKey expiresAt), db')) (events : List ServeEvent) :
    ∃ key : GeneratedApiKey, key.fullKey = fullKey ∧ key.expiresAt = expiresAt ∧
      key.serviceId = serviceId ∧ key.keyId = service.apiKeyPrefix ++ D.base64 (secret.take 8) ∧
      (Always (serveKey D) (Usable D key) db' events ↔
        GoodStart service.apiKeyPrefix ∧ Each (serveKey D) (Keeps D key) db' events) := by
  have hp := passes_of_verified h
  obtain ⟨validated, hva⟩ := hp.headers
  rw [authVerify_of_passes hp hservice hva] at h
  obtain ⟨han, rfl⟩ := Prod.mk.inj h
  obtain ⟨-, hv⟩ := Prod.mk.inj han
  cases hv
  have he : 0 < max payload.expiresAt (now + 90 * 24 * 60 * 60) := by omega
  refine ⟨issuedKey D service serviceId payload validated secret now, rfl, rfl, rfl, rfl, ?_⟩
  generalize hkey : issuedKey D service serviceId payload validated secret now = key
  have hus : ∀ db, Usable D key db ↔ GoodStart service.apiKeyPrefix ∧ Backed D key db :=
    usable_iff hsafe hkey he
  have hba : Backed D key ((key.toModel D now).save db) := by
    obtain ⟨number, hl⟩ := lookup_save (key.toModel D now) db
    exact ⟨_, (hl _).trans (if_pos rfl), rfl, rfl, rfl, le_refl _, rfl⟩
  generalize (key.toModel D now).save db = start at hba
  have hst : ∀ db event, True → Backed D key db →
      (Backed D key (serveKey D db event) ↔ Keeps D key db event) :=
    fun db event _ hk => backed_serveKey_iff hk event
  rw [← always_iff_each (J := fun _ => True) (fun _ _ _ _ => trivial) hst trivial hba events]
  constructor
  · intro ha
    exact ⟨((hus start).mp ha.head).1, ha.mono fun db hu => ((hus db).mp hu).2⟩
  · rintro ⟨hs, ha⟩
    exact ha.mono fun db hb => (hus db).mpr ⟨hs, hb⟩

abbrev twoLetterDeps : AuthDeps :=
  { plainAuthDeps with
    keccak256 := fun text => text.map asciiByte
    base64 := fun bytes => bytes.map fun b => if b.toNat % 2 = 0 then 'A' else 'B' }

lemma urlSafe_twoLetterDeps : UrlSafe twoLetterDeps where
  alphabet bytes c hc := by
    obtain ⟨b, -, rfl⟩ := mem_map.mp hc
    left
    split <;> rfl

variable (start : String)

def serviceWith : ServiceModel := ⟨start.toList, [⟨1, [7]⟩], [], none⟩

def dbWith : Db where
  services := (∅ : HashMap ServiceId ServiceModel).insert ⟨1, 0⟩ (serviceWith start)
  tokens := ∅
  apiKeys := ∅
  apiKeysById := ∅
  sequence := 0

def ownersAnswer : VerifyChallengeRequest := ⟨⟨[7], .ecdsa⟩, [], [], 0, ∅⟩

def secretBytes (last : UInt8) : Bytes := List.replicate 31 0 ++ [last]

def answerOf (last : UInt8) (db : Db) : (StatusCode × VerifyChallengeResponse) × Db :=
  authVerify twoLetterDeps ⟨1, 0⟩ ownersAnswer (secretBytes last) (.ok ()) 0 db

def keyTextFor (last : Char) : List Char :=
  (start ++ "AAAAAAAA.AAAAAAAAAAAAAAAAAAAAAAA").toList ++ [last]

def servedFor (fullKey : List Char) (db : Db) : Except StatusCode ServiceId :=
  (extractAndValidateAuth twoLetterDeps (credentialHeaders fullKey) db 1).1.map Prod.fst

theorem always_usable_iff_usual :
    (answerOf 0 (dbWith "ak_")).1 = (.created, .verified (keyTextFor "ak_" 'A') 7776000) ∧
    ∃ key : GeneratedApiKey, key.fullKey = keyTextFor "ak_" 'A' ∧ key.expiresAt = 7776000 ∧
      key.serviceId = ⟨1, 0⟩ ∧
      key.keyId = (serviceWith "ak_").apiKeyPrefix ++ twoLetterDeps.base64 ((secretBytes 0).take 8) ∧
      (Always (serveKey twoLetterDeps) (Usable twoLetterDeps key) (answerOf 0 (dbWith "ak_")).2 [] ↔
        GoodStart (serviceWith "ak_").apiKeyPrefix ∧
          Each (serveKey twoLetterDeps) (Keeps twoLetterDeps key) (answerOf 0 (dbWith "ak_")).2 []) := by
  have ha : (answerOf 0 (dbWith "ak_")).1
      = (.created, .verified (keyTextFor "ak_" 'A') 7776000) := by decide +kernel
  exact ⟨ha, always_usable_iff twoLetterDeps urlSafe_twoLetterDeps ⟨1, 0⟩ ownersAnswer
    (secretBytes 0) (.ok ()) 0 (dbWith "ak_") _ (serviceWith "ak_") (Finmap.lookup_insert _) .created
    _ _ (Prod.ext ha rfl) []⟩

/-- A key whose prefix has a dot or a bar is refused from the start, although it was returned. A key
with the usual prefix is refused once another one has drawn the same id. -/
theorem returned_key_refused :
    (answerOf 0 (dbWith "svc.")).1 = (.created, .verified (keyTextFor "svc." 'A') 7776000) ∧
    servedFor (keyTextFor "svc." 'A') (answerOf 0 (dbWith "svc.")).2 = .error .unauthorized ∧
    (answerOf 0 (dbWith "a|b")).1 = (.created, .verified (keyTextFor "a|b" 'A') 7776000) ∧
    servedFor (keyTextFor "a|b" 'A') (answerOf 0 (dbWith "a|b")).2 = .error .unauthorized ∧
    servedFor (keyTextFor "ak_" 'A') (answerOf 0 (dbWith "ak_")).2 = .ok ⟨1, 0⟩ ∧
    servedFor (keyTextFor "ak_" 'A') (answerOf 1 (answerOf 0 (dbWith "ak_")).2).2
      = .error .unauthorized := by
  refine ⟨?_, ?_, ?_, ?_, ?_, ?_⟩ <;> decide +kernel

end Gadget.Auth
