import Dntpd.Autokey
import Dntpd.Spec.PacketCodec

/-!
# What authentication authenticates

`autokey_verify_mac` computes the digest it expects and returns 0 without looking at the one that
was received, so a packet is accepted with every trailer or with none (`macUnique_iff`).  The
handler never asks it: with `enable_ntp_auth` a request is served as if there were no
authentication, and without it a request with a MAC field is refused (`authentication_served_iff`).
-/

namespace Dntpd

open Proc

/-! ### The verifier -/

/-- Every call of libgcrypt succeeds. -/
structure Gcrypt.Works (gcry : Gcrypt) : Prop where
  mdOpen : gcry.mdOpen = gpgErrNoError
  mdSetkey : gcry.mdSetkey = gpgErrNoError
  mdRead : gcry.mdRead = true

theorem autokeyComputeHmac_neg_iff (gcry : Gcrypt) (data : Mem) (dataLen : ℕ) (key : List UInt8)
    {keyLen : ℕ} (hpos : 0 < keyLen) (hle : keyLen ≤ 64) :
    (autokeyComputeHmac gcry (some data) dataLen (some key) keyLen).1 < 0 ↔ ¬ gcry.Works := by
  have hlen : ¬ (keyLen = 0 ∨ keyLen > 64) := by omega
  unfold autokeyComputeHmac
  dsimp only
  rw [if_neg hlen]
  split_ifs with hopen hsetkey hread
  · exact iff_of_true (by decide) fun h => hopen h.mdOpen
  · exact iff_of_true (by decide) fun h => hsetkey h.mdSetkey
  · exact iff_of_false (lt_irrefl 0)
      (not_not.mpr ⟨not_not.mp hopen, not_not.mp hsetkey, hread⟩)
  · exact iff_of_true (by decide) fun h => hread h.mdRead

/-- A packet is accepted whatever it holds. -/
theorem autokeyVerifyMac_eq_zero_iff (gcry : Gcrypt) (s : IdoState) (pkt : Mem)
    (pktLen keyId : ℕ) : autokeyVerifyMac gcry s (some pkt) pktLen keyId = 0 ↔
      s.idoKeyId.toNat = keyId ∧ s.idoEnabled ≠ 0 ∧ gcry.Works := by
  have hhmac := autokeyComputeHmac_neg_iff gcry pkt pktLen s.idoKey.toList
    (by decide : 0 < 20) (by decide)
  unfold autokeyVerifyMac
  dsimp only
  split_ifs with hid henabled hfail
  · exact iff_of_false (by decide) fun h => hid h.1
  · exact iff_of_false (by decide) fun h => h.2.1 henabled
  · exact iff_of_false (by decide) fun h => hhmac.mp hfail h.2.2
  · exact iff_of_true rfl ⟨not_not.mp hid, henabled, not_not.mp (mt hhmac.mpr hfail)⟩

/-- Behind the prefix the verifier accepts at most one trailer of 20 bytes. -/
def MacUnique (gcry : Gcrypt) (s : IdoState) (pkt : List UInt8) (keyId : ℕ) : Prop :=
  ∀ digest digest' : Vector UInt8 20,
    autokeyVerifyMac gcry s (some (Mem.ofList (pkt ++ digest.toList))) (pkt.length + 20) keyId = 0 →
      autokeyVerifyMac gcry s (some (Mem.ofList (pkt ++ digest'.toList))) (pkt.length + 20) keyId
          = 0 →
        digest = digest'

/-- At most one trailer is accepted exactly if none is: the key is not the active one, Autokey is
not enabled, or a call of libgcrypt fails. -/
theorem macUnique_iff (gcry : Gcrypt) (s : IdoState) (pkt : List UInt8) (keyId : ℕ) :
    MacUnique gcry s pkt keyId ↔ s.idoKeyId.toNat ≠ keyId ∨ s.idoEnabled = 0 ∨ ¬ gcry.Works := by
  unfold MacUnique
  constructor
  · intro hunique
    by_contra hnone
    push Not at hnone
    obtain ⟨hid, henabled, hworks⟩ := hnone
    have haccepts := fun digest : Vector UInt8 20 => (autokeyVerifyMac_eq_zero_iff gcry s
      (Mem.ofList (pkt ++ digest.toList)) (pkt.length + 20) keyId).mpr ⟨hid, henabled, hworks⟩
    -- two trailers that differ are both accepted
    have hequal := hunique (Vector.replicate 20 0) (Vector.replicate 20 1) (haccepts _) (haccepts _)
    exact absurd hequal (by decide)
  · intro hnone digest digest' haccepts
    obtain ⟨hid, henabled, hworks⟩ := (autokeyVerifyMac_eq_zero_iff _ _ _ _ _).mp haccepts
    rcases hnone with hid' | henabled' | hfails
    · exact absurd hid hid'
    · exact absurd henabled' henabled
    · exact absurd hworks hfails

/-- A state with an installed key. -/
def installedKey : IdoState :=
  (autokeyInstallKey IdoState.init 1 (Mem.ofList (List.replicate 20 0x55))).2

/-- A libgcrypt that works, with the key for a digest. -/
def keyDigest : Gcrypt := ⟨0, 0, true, fun key _ => Vector.ofFn fun i => key.getD i 0⟩

/-- All trailers of the packet verify. -/
theorem not_macUnique_installedKey :
    ¬ MacUnique keyDigest installedKey (List.replicate 48 0) 1 := by
  intro hunique
  have haccepts := fun digest : Vector UInt8 20 => (autokeyVerifyMac_eq_zero_iff keyDigest
    installedKey (Mem.ofList (List.replicate 48 0 ++ digest.toList)) 68 1).mpr
      ⟨rfl, by decide, rfl, rfl, rfl⟩
  have hequal := hunique (Vector.replicate 20 0) (Vector.replicate 20 1) (haccepts _) (haccepts _)
  exact absurd hequal (by decide)

/-! ### The handler -/

/-- The walk over the extension fields meets a MAC field. -/
def HasMacField (buffer : Mem) (size : ℕ) : Prop := size > 48 ∧ macFieldFrom buffer size 48 = true

/-- A packet is refused for its authentication only if it has a MAC field and the configuration does
not want one. -/
theorem validatePacketAuthentication_eq_iff (buffer : Mem) {size : ℕ} (hsize : 48 ≤ size)
    (d : Daemon) : (validatePacketAuthentication (some buffer) size d).ret = -ENOTSUP ↔
      HasMacField buffer size ∧ d.mode.config.enableNtpAuth = 0 := by
  have hshort : ¬ size < 48 := by omega
  unfold validatePacketAuthentication
  dsimp only
  rw [if_neg hshort, ite_ret]
  by_cases hmac : size > 48 ∧ macFieldFrom buffer size 48 = true
  · rw [if_pos hmac, bind_ret, modeHandlerGetConfig_run, pure_ret]
    by_cases hauth : d.mode.config.enableNtpAuth = 0
    · rw [if_pos hauth]
      exact iff_of_true rfl ⟨hmac, hauth⟩
    · rw [if_neg hauth]
      exact iff_of_false (by decide) fun h => hauth h.2
  · rw [if_neg hmac, pure_ret]
    exact iff_of_false (by decide) fun h => hmac h.1

/-- The request passes every check of the handler but the one for its authentication, and can be
replied to. -/
structure Serviceable (data : PeerRequestData) (env : RequestEnv) (d : Daemon) (buffer : Mem)
    (responseMode : UInt8) : Prop where
  received : data.buffer = some buffer
  ip : data.ip ≠ []
  port : data.port ≠ []
  parses : (parseNtpPacket buffer data.size env.stalePkt d.ido).ok = true
  version : (readHeader buffer).vn = ntpVn4
  acl : (aclCheckClient (some data.ip) (readHeader buffer).mode d).ret = true
  rate : (rateLimitCheck (some data.ip) env.rateCheckTime d).ret = 0
  mode : responseModeFor d.cli.broadcastMode (readHeader buffer).mode = some responseMode
  ratio : (validatePacketMode responseMode data.size 48 d).ret = 0
  li : (readHeader buffer).li ≠ 3
  deliverable : Deliverable data.ip data.port env

theorem handled_deliverable_iff (data : PeerRequestData) (env : RequestEnv) (d : Daemon)
    (buffer : Mem) (responseMode : UInt8) :
    Handled data env d buffer responseMode ∧ Deliverable data.ip data.port env ↔
      Serviceable data env d buffer responseMode ∧
        ¬ (HasMacField buffer data.size ∧ d.mode.config.enableNtpAuth = 0) := by
  -- the two conditions differ in the test of the MAC alone
  constructor
  · rintro ⟨h, hdeliverable⟩
    have hsize := ((parseNtpPacket_ok_iff _ _ _ _).mp h.parses).1
    refine ⟨?_, (validatePacketAuthentication_eq_iff buffer hsize d).not.mp h.admitted.auth⟩
    exact {
      received := h.received
      ip := h.ip
      port := h.port
      parses := h.parses
      version := h.admitted.version
      acl := h.admitted.acl
      rate := h.admitted.rate
      mode := h.admitted.mode
      ratio := h.admitted.ratio
      li := h.li
      deliverable := hdeliverable }
  · rintro ⟨h, hauth⟩
    have hsize := ((parseNtpPacket_ok_iff _ _ _ _).mp h.parses).1
    refine ⟨?_, h.deliverable⟩
    exact {
      received := h.received
      ip := h.ip
      port := h.port
      parses := h.parses
      admitted := {
        version := h.version
        auth := (validatePacketAuthentication_eq_iff buffer hsize d).not.mpr hauth
        acl := h.acl
        rate := h.rate
        mode := h.mode
        ratio := h.ratio }
      li := h.li }

/-- With authentication enabled a response is sent exactly if the request passes the other checks;
disabled, exactly if moreover it has no MAC field. -/
theorem authentication_served_iff (data : PeerRequestData) (env : RequestEnv) (d : Daemon) :
    (d.mode.config.enableNtpAuth ≠ 0 → (replies (handlePeerRequestThread data env d).trace ≠ [] ↔
        ∃ buffer responseMode, Serviceable data env d buffer responseMode)) ∧
      (d.mode.config.enableNtpAuth = 0 → (replies (handlePeerRequestThread data env d).trace ≠ [] ↔
        ∃ buffer responseMode, Serviceable data env d buffer responseMode ∧
          ¬ HasMacField buffer data.size)) := by
  -- the requests that are served, whatever the switch is
  have hserved : replies (handlePeerRequestThread data env d).trace ≠ [] ↔
      ∃ buffer responseMode, Serviceable data env d buffer responseMode ∧
        ¬ (HasMacField buffer data.size ∧ d.mode.config.enableNtpAuth = 0) := by
    rw [ne_eq, replies_handlePeerRequestThread_eq_nil_iff, not_not]
    constructor
    · rintro ⟨⟨buffer, responseMode, h⟩, hdeliverable⟩
      exact ⟨buffer, responseMode, (handled_deliverable_iff _ _ _ _ _).mp ⟨h, hdeliverable⟩⟩
    · rintro ⟨buffer, responseMode, h⟩
      obtain ⟨hhandled, hdeliverable⟩ := (handled_deliverable_iff _ _ _ _ _).mpr h
      exact ⟨⟨buffer, responseMode, hhandled⟩, hdeliverable⟩
  constructor
  · intro hon
    refine hserved.trans (exists₂_congr fun buffer responseMode => and_iff_left ?_)
    exact fun h => hon h.2
  · intro hoff
    refine hserved.trans (exists₂_congr fun buffer responseMode => and_congr_right fun _ => ?_)
    exact not_congr (and_iff_left hoff)

/-- The packet has a MAC field with this digest of what stands before the field. -/
def CarriesMac (hmacSha1 : List UInt8 → List UInt8 → Vector UInt8 20) (key : Vector UInt8 20)
    (buffer : Mem) (size : ℕ) : Prop :=
  ∃ pos, 48 ≤ pos ∧ pos + 24 ≤ size ∧ buffer pos = 0 ∧ buffer (pos + 1) = 3 ∧
    (Vector.ofFn fun i : Fin 20 => buffer (pos + 4 + i)) =
      hmacSha1 key.toList ((List.range pos).map buffer)

/-- A server that wants authentication, and serves everybody. -/
def authenticatingServer : Daemon :=
  { openServer with
    mode := ⟨{ ModeConfig.init with aclDefaultPolicy := 0, enableNtpAuth := 1 }, [], []⟩ }

/-- It replies to a request without a MAC field, and no digest makes that a MAC. -/
theorem authenticatingServer_serves :
    authenticatingServer.mode.config.enableNtpAuth = 1 ∧
      replies (handlePeerRequestThread sampleRequest workingRequestEnv authenticatingServer).trace
        ≠ [] ∧
      ∀ buffer, sampleRequest.buffer = some buffer → ∀ hmacSha1 key,
        ¬ CarriesMac hmacSha1 key buffer sampleRequest.size := by
  refine ⟨rfl, by decide +kernel, ?_⟩
  rintro buffer - hmacSha1 key ⟨pos, hpos, hsize, -⟩
  have h48 : sampleRequest.size = 48 := rfl
  omega

end Dntpd
