import Dntpd.Spec.AccessControl

/-!
# The header on the wire

`writeHeader` puts the fields of a header at the offsets of the response encoder.  It is inverse to
`readHeader` on 48 bytes (`readHeader_writeHeader`, `writeHeader_readHeader`), and both the response
and the client request are written by it.
-/

namespace Dntpd

/-! ### Words -/

/-- The value of a big-endian word, byte by byte. -/
theorem toNat_readU32be (p : Mem) :
    (readU32be p).toNat = (p 0).toNat * 16777216 + (p 1).toNat * 65536 + (p 2).toNat * 256
      + (p 3).toNat := by
  have h0 := (p 0).toNat_lt
  have h1 := (p 1).toNat_lt
  have h2 := (p 2).toNat_lt
  have h3 := (p 3).toNat_lt
  -- a byte shifted by at most 24 places stays within the word
  have hshift : ∀ (b : UInt8) (n : UInt32), n.toNat ≤ 24 →
      (b.toUInt32 <<< n).toNat = b.toNat <<< n.toNat := by
    intro b n hn
    have hb := b.toNat_lt
    have hpow : 2 ^ n.toNat ≤ 2 ^ 24 := Nat.pow_le_pow_right (by decide) hn
    rw [UInt32.toNat_shiftLeft, UInt8.toNat_toUInt32, Nat.mod_eq_of_lt (by omega : n.toNat < 32),
      Nat.mod_eq_of_lt]
    rw [Nat.shiftLeft_eq]
    calc b.toNat * 2 ^ n.toNat ≤ 255 * 2 ^ 24 := Nat.mul_le_mul (by omega) hpow
      _ < 2 ^ 32 := by decide
  unfold readU32be
  rw [UInt32.toNat_or, UInt32.toNat_or, UInt32.toNat_or, hshift _ 24 (by decide),
    hshift _ 16 (by decide), hshift _ 8 (by decide), UInt8.toNat_toUInt32]
  -- the bytes do not overlap, so the disjunctions are sums, from the left
  have h01 : (p 0).toNat <<< 24 ||| (p 1).toNat <<< 16
      = ((p 0).toNat * 256 + (p 1).toNat) <<< 16 := by
    rw [← Nat.shiftLeft_add_eq_or_of_lt (by rw [Nat.shiftLeft_eq]; omega)]
    simp only [Nat.shiftLeft_eq]
    omega
  have h012 : ((p 0).toNat * 256 + (p 1).toNat) <<< 16 ||| (p 2).toNat <<< 8
      = (((p 0).toNat * 256 + (p 1).toNat) * 256 + (p 2).toNat) <<< 8 := by
    rw [← Nat.shiftLeft_add_eq_or_of_lt (by rw [Nat.shiftLeft_eq]; omega)]
    simp only [Nat.shiftLeft_eq]
    omega
  show ((p 0).toNat <<< 24 ||| (p 1).toNat <<< 16 ||| (p 2).toNat <<< 8) ||| (p 3).toNat = _
  rw [h01, h012, ← Nat.shiftLeft_add_eq_or_of_lt h3, Nat.shiftLeft_eq]
  omega

theorem toNat_byte (v n : UInt32) (hn : n.toNat < 32) :
    (v >>> n).toUInt8.toNat = v.toNat / 2 ^ n.toNat % 256 := by
  rw [UInt32.toNat_toUInt8, UInt32.toNat_shiftRight, Nat.mod_eq_of_lt hn,
    Nat.shiftRight_eq_div_pow]

/-- The word whose bytes are those of `v` is `v`. -/
theorem readU32be_of_writeU32be {p : Mem} {v : UInt32}
    (h : [p 0, p 1, p 2, p 3] = writeU32be v) : readU32be p = v := by
  have hv := v.toNat_lt
  obtain ⟨h0, h1, h2, h3⟩ : p 0 = (v >>> 24).toUInt8 ∧ p 1 = (v >>> 16).toUInt8 ∧
      p 2 = (v >>> 8).toUInt8 ∧ p 3 = v.toUInt8 := by
    simpa [writeU32be] using h
  rw [← UInt32.toNat_inj, toNat_readU32be, h0, h1, h2, h3, toNat_byte v 24 (by decide),
    toNat_byte v 16 (by decide), toNat_byte v 8 (by decide), UInt32.toNat_toUInt8]
  show v.toNat / 16777216 % 256 * 16777216 + v.toNat / 65536 % 256 * 65536
    + v.toNat / 256 % 256 * 256 + v.toNat % 256 = v.toNat
  omega

/-- The bytes of a word that was read are the bytes it was read from. -/
theorem writeU32be_readU32be (p : Mem) : writeU32be (readU32be p) = [p 0, p 1, p 2, p 3] := by
  have h0 := (p 0).toNat_lt
  have h1 := (p 1).toNat_lt
  have h2 := (p 2).toNat_lt
  have h3 := (p 3).toNat_lt
  have hvalue := toNat_readU32be p
  -- the shift and the cast leave the byte that was read
  have hbyte : ∀ (n : UInt32), n.toNat < 32 → ∀ b : UInt8,
      (readU32be p).toNat / 2 ^ n.toNat % 256 = b.toNat → (readU32be p >>> n).toUInt8 = b := by
    intro n hn b hb
    rw [← UInt8.toNat_inj, toNat_byte _ _ hn, hb]
  unfold writeU32be
  rw [hbyte 24 (by decide) (p 0), hbyte 16 (by decide) (p 1), hbyte 8 (by decide) (p 2)]
  · have hlow : (readU32be p).toUInt8 = p 3 := by
      rw [← UInt8.toNat_inj, UInt32.toNat_toUInt8, hvalue]
      omega
    rw [hlow]
  · show (readU32be p).toNat / 256 % 256 = _
    omega
  · show (readU32be p).toNat / 65536 % 256 = _
    omega
  · show (readU32be p).toNat / 16777216 % 256 = _
    omega

/-! ### The first byte -/

/-- The byte the encoders pack from a leap indicator, a version and a mode. -/
def packFirstByte (li vn mode : UInt8) : UInt8 :=
  ((li &&& 0x03) <<< ntpLiShift) ||| (vn <<< ntpVnShift) ||| mode

/-- Packing what was unpacked gives the byte back. -/
theorem packFirstByte_unpack (h : NtpHeader) : packFirstByte h.li h.vn h.mode = h.liVnMode := by
  have hall : ∀ i : Fin 256, packFirstByte ((UInt8.ofFin i &&& ntpLiMask) >>> ntpLiShift)
      ((UInt8.ofFin i &&& ntpVnMask) >>> ntpVnShift) (UInt8.ofFin i &&& ntpModeMask)
        = UInt8.ofFin i := by decide +kernel
  exact hall h.liVnMode.toFin

/-- What is unpacked from a byte packed with version 4 and a mode of three bits. -/
theorem unpack_packFirstByte {h : NtpHeader} {li mode : UInt8} (hmode : mode.toNat < 8)
    (hbyte : h.liVnMode = packFirstByte li ntpVn4 mode) :
    h.li = li &&& 0x03 ∧ h.vn = ntpVn4 ∧ h.mode = mode := by
  have hall : ∀ (i : Fin 4) (j : Fin 8),
      let b := (UInt8.ofNat i <<< ntpLiShift) ||| (ntpVn4 <<< ntpVnShift) ||| UInt8.ofNat j
      (b &&& ntpLiMask) >>> ntpLiShift = UInt8.ofNat i ∧
        (b &&& ntpVnMask) >>> ntpVnShift = ntpVn4 ∧ b &&& ntpModeMask = UInt8.ofNat j := by
    decide +kernel
  have hli : (li &&& 0x03).toNat < 4 := by
    rw [UInt8.toNat_and]
    exact Nat.lt_succ_of_le Nat.and_le_right
  have h' := hall ⟨(li &&& 0x03).toNat, hli⟩ ⟨mode.toNat, hmode⟩
  rw [UInt8.ofNat_toNat, UInt8.ofNat_toNat] at h'
  unfold NtpHeader.li NtpHeader.vn NtpHeader.mode
  rw [hbyte]
  exact h'

/-! ### The header -/

/-- The fields of a header at the offsets of the response encoder. -/
def writeHeader (h : NtpHeader) : List UInt8 :=
  [packFirstByte h.li h.vn h.mode, h.stratum, h.poll.toUInt8, h.precision.toUInt8]
    ++ writeU32be h.rootDelay ++ writeU32be h.rootDisp ++ writeU32be h.refId
    ++ writeTimestamp h.refTs ++ writeTimestamp h.origTs
    ++ writeTimestamp h.recvTs ++ writeTimestamp h.xmitTs

theorem length_writeHeader (h : NtpHeader) : (writeHeader h).length = 48 := rfl

theorem readTimestamp_of_writeTimestamp {data : Mem} {off : ℕ} {t : NtpTimestamp}
    (h : (List.range 8).map (fun i => data (off + i)) = writeTimestamp t) :
    readTimestamp data off = t := by
  obtain ⟨sec, frac⟩ := t
  have hsec : [data.drop off 0, data.drop off 1, data.drop off 2, data.drop off 3]
      = writeU32be sec := congrArg (List.take 4) h
  have hfrac : [data.drop (off + 4) 0, data.drop (off + 4) 1, data.drop (off + 4) 2,
      data.drop (off + 4) 3] = writeU32be frac := congrArg (List.drop 4) h
  unfold readTimestamp
  rw [readU32be_of_writeU32be hsec, readU32be_of_writeU32be hfrac]

/-- Reading what was written gives the header back. -/
theorem readHeader_writeHeader (h : NtpHeader) : readHeader (Mem.ofList (writeHeader h)) = h := by
  have hfirst := packFirstByte_unpack h
  obtain ⟨liVnMode, stratum, poll, precision, rootDelay, rootDisp, refId, refTs, origTs, recvTs,
    xmitTs⟩ := h
  unfold writeHeader writeTimestamp writeU32be
  rw [hfirst]
  simp only [List.cons_append, List.nil_append]
  -- the list has its 48 bytes now, so each offset is looked up by computation
  set data := Mem.ofList _ with hdata
  have hdelay : readU32be (data.drop 4) = rootDelay := readU32be_of_writeU32be rfl
  have hdisp : readU32be (data.drop 8) = rootDisp := readU32be_of_writeU32be rfl
  have hrefId : readU32be (data.drop 12) = refId := readU32be_of_writeU32be rfl
  have hrefTs : readTimestamp data 16 = refTs := readTimestamp_of_writeTimestamp rfl
  have horigTs : readTimestamp data 24 = origTs := readTimestamp_of_writeTimestamp rfl
  have hrecvTs : readTimestamp data 32 = recvTs := readTimestamp_of_writeTimestamp rfl
  have hxmitTs : readTimestamp data 40 = xmitTs := readTimestamp_of_writeTimestamp rfl
  have hbyte : data 0 = liVnMode := rfl
  have hpoll : (data 2).toInt8 = poll := rfl
  have hprecision : (data 3).toInt8 = precision := rfl
  unfold readHeader
  rw [hdelay, hdisp, hrefId, hrefTs, horigTs, hrecvTs, hxmitTs, hbyte, hpoll, hprecision]
  rfl

theorem writeTimestamp_readTimestamp (data : Mem) (off : ℕ) :
    writeTimestamp (readTimestamp data off) = (List.range 8).map fun i => data (off + i) := by
  unfold writeTimestamp readTimestamp
  rw [writeU32be_readU32be, writeU32be_readU32be]
  rfl

/-- Writing what was read gives the 48 bytes back. -/
theorem writeHeader_readHeader (data : Mem) :
    writeHeader (readHeader data) = (List.range 48).map data := by
  have hfirst : packFirstByte (readHeader data).li (readHeader data).vn (readHeader data).mode
      = data 0 := packFirstByte_unpack (readHeader data)
  unfold writeHeader
  rw [hfirst]
  unfold readHeader
  dsimp only
  rw [writeU32be_readU32be, writeU32be_readU32be, writeU32be_readU32be,
    writeTimestamp_readTimestamp, writeTimestamp_readTimestamp, writeTimestamp_readTimestamp,
    writeTimestamp_readTimestamp]
  rfl

/-! ### What the encoders write -/

/-- The header of the response to `pkt` of a daemon in the state `d`. -/
def responseHeader (d : Daemon) (responseMode : UInt8) (pkt : NtpHeader) (env : RequestEnv) :
    NtpHeader where
  liVnMode := packFirstByte (if d.g.timeSynced then (modeGetDefaultLi d).ret else 3) ntpVn4
    responseMode
  stratum := if d.g.timeSynced then (modeGetDefaultStratum d).ret else 16
  poll := pkt.poll
  precision := d.g.localPrecision
  rootDelay := if d.g.timeSynced then d.g.localRootDelay else 0
  rootDisp := if d.g.timeSynced then d.g.localRootDisp else 0
  refId := if d.g.timeSynced then (modeGetDefaultRefId d).ret else refIdLocl
  refTs := if d.g.timeSynced then d.g.localRefTs else ⟨0, 0⟩
  origTs := pkt.xmitTs
  recvTs := ntpTimestampNow env.t2Clock
  xmitTs := ntpTimestampNow env.t3Clock

/-- The response is the header that was written. -/
theorem responseTo_eq_writeHeader (d : Daemon) (responseMode : UInt8) (pkt : NtpHeader)
    (env : RequestEnv) :
    responseTo d responseMode pkt env = writeHeader (responseHeader d responseMode pkt env) := by
  unfold writeHeader
  rw [packFirstByte_unpack]
  rfl

/-- The header of a client request sent at `t1`. -/
def requestHeader (g : Globals) (t1 : NtpTimestamp) : NtpHeader :=
  { NtpPacket.zero.toNtpHeader with
    liVnMode := packFirstByte 0 ntpVn4 ntpModeClient
    poll := if g.localPoll < 0 then 12 else g.localPoll
    precision := g.localPrecision
    xmitTs := t1 }

theorem createNtpRequest_eq_writeHeader (g : Globals) (t1 : NtpTimestamp) :
    createNtpRequest g t1 = writeHeader (requestHeader g t1) := by
  have hbyte : (0 <<< ntpLiShift) ||| (ntpVn4 <<< ntpVnShift) ||| 3
      = packFirstByte 0 ntpVn4 ntpModeClient := by decide
  have hzero : List.replicate 36 (0 : UInt8) = writeU32be 0 ++ writeU32be 0 ++ writeU32be 0
      ++ writeTimestamp ⟨0, 0⟩ ++ writeTimestamp ⟨0, 0⟩ ++ writeTimestamp ⟨0, 0⟩ := by decide
  unfold createNtpRequest writeHeader
  rw [packFirstByte_unpack, hbyte, hzero]
  rfl

/-! ### Round trips -/

/-- A datagram of 48 bytes or more is assigned to a zeroed packet whatever the verdict is. -/
theorem parseNtpPacket_zero_pkt (data : Mem) {size : ℕ} (hsize : 48 ≤ size) (s : IdoState) :
    (parseNtpPacket data size NtpPacket.zero s).pkt = readPacket data size NtpPacket.zero := by
  have hkod : ¬ ntpIsKod NtpPacket.zero.toNtpHeader = true := by decide
  unfold parseNtpPacket
  rw [if_neg (not_lt.mpr hsize), if_neg hkod]
  dsimp only
  split_ifs <;> rfl

theorem parseNtpPacket_zero_ok_iff (data : Mem) {size : ℕ} (hsize : 48 ≤ size) (s : IdoState) :
    (parseNtpPacket data size NtpPacket.zero s).ok = true ↔ HeaderAccepted (readHeader data) := by
  have hkod : ntpIsKod NtpPacket.zero.toNtpHeader = false := rfl
  rw [parseNtpPacket_ok_iff, and_iff_right hsize, and_iff_right hkod]

/-- The bytes parse into a zeroed packet, and its header is `h`. -/
def ParsesTo (bytes : List UInt8) (s : IdoState) (h : NtpHeader) : Prop :=
  (parseNtpPacket (Mem.ofList bytes) bytes.length NtpPacket.zero s).ok = true ∧
    (parseNtpPacket (Mem.ofList bytes) bytes.length NtpPacket.zero s).pkt.toNtpHeader = h

/-- An acceptable header is parsed back from its bytes. -/
theorem parsesTo_writeHeader {h : NtpHeader} (hacc : HeaderAccepted h) (s : IdoState) :
    ParsesTo (writeHeader h) s h := by
  have hsize : 48 ≤ (writeHeader h).length := (length_writeHeader h).ge
  have hread := readHeader_writeHeader h
  constructor
  · rw [parseNtpPacket_zero_ok_iff _ hsize, hread]
    exact hacc
  · rw [parseNtpPacket_zero_pkt _ hsize, readPacket_toNtpHeader, hread]

/-- The header has the values the handler writes into the response to `pkt`. -/
structure CarriesResponse (d : Daemon) (responseMode : UInt8) (pkt : NtpHeader) (env : RequestEnv)
    (h : NtpHeader) : Prop where
  li : h.li = (if d.g.timeSynced then (modeGetDefaultLi d).ret else 3) &&& 0x03
  vn : h.vn = ntpVn4
  mode : h.mode = responseMode
  stratum : h.stratum = if d.g.timeSynced then (modeGetDefaultStratum d).ret else 16
  poll : h.poll = pkt.poll
  precision : h.precision = d.g.localPrecision
  rootDelay : h.rootDelay = if d.g.timeSynced then d.g.localRootDelay else 0
  rootDisp : h.rootDisp = if d.g.timeSynced then d.g.localRootDisp else 0
  refId : h.refId = if d.g.timeSynced then (modeGetDefaultRefId d).ret else refIdLocl
  refTs : h.refTs = if d.g.timeSynced then d.g.localRefTs else ⟨0, 0⟩
  origTs : h.origTs = pkt.xmitTs
  recvTs : h.recvTs = ntpTimestampNow env.t2Clock
  xmitTs : h.xmitTs = ntpTimestampNow env.t3Clock

theorem carriesResponse_responseHeader (d : Daemon) {responseMode : UInt8}
    (hm : responseMode.toNat < 8) (pkt : NtpHeader) (env : RequestEnv) :
    CarriesResponse d responseMode pkt env (responseHeader d responseMode pkt env) := by
  obtain ⟨hli, hvn, hmode⟩ :=
    unpack_packFirstByte (h := responseHeader d responseMode pkt env) hm rfl
  exact ⟨hli, hvn, hmode, rfl, rfl, rfl, rfl, rfl, rfl, rfl, rfl, rfl, rfl⟩

theorem responseModeFor_ne_zero {broadcastMode : ℤ} {mode responseMode : UInt8}
    (h : responseModeFor broadcastMode mode = some responseMode) : responseMode ≠ 0 := by
  unfold responseModeFor at h
  split_ifs at h <;> cases h <;> decide

/-- What the handler sends is the response it built for a request that it handled. -/
theorem exists_responseTo_of_mem_sends {data : PeerRequestData} {env : RequestEnv} {d : Daemon}
    {s : Sender × SockAddrIn × List UInt8 × Bool}
    (hs : s ∈ sends (handlePeerRequestThread data env d).trace) :
    ∃ buffer responseMode, Handled data env d buffer responseMode ∧
      s.2.2.1 = responseTo d responseMode (readHeader buffer) env := by
  obtain ⟨-, hsent⟩ | ⟨buffer, responseMode, hhandled, hserved⟩ :=
    handlePeerRequestThread_cases data env d
  · rw [hsent] at hs
    exact absurd hs List.not_mem_nil
  refine ⟨buffer, responseMode, hhandled, ?_⟩
  -- the response goes out to the client, and a copy of it is the same datagram
  cases hserved with
  | silent _ hsent =>
    rw [hsent] at hs
    exact absurd hs List.not_mem_nil
  | failed dest _ hsent =>
    rw [hsent] at hs
    rw [List.mem_singleton.mp hs]
  | answered dest _ hsent =>
    rw [hsent] at hs
    rw [List.mem_singleton.mp hs]
  | copied dest dest' ok _ _ hsent =>
    rw [hsent] at hs
    rcases List.mem_pair.mp hs with rfl | rfl
    · rfl
    · rfl

/-- A response with an acceptable stratum is parsed back to the values that were written. -/
theorem Handled.parsesTo {data : PeerRequestData} {env : RequestEnv} {d : Daemon} {buffer : Mem}
    {responseMode : UInt8} (h : Handled data env d buffer responseMode)
    (hstratum : (if d.g.timeSynced then (modeGetDefaultStratum d).ret else 16) ≤ 16)
    (s : IdoState) : ∃ header,
      ParsesTo (responseTo d responseMode (readHeader buffer) env) s header ∧
        CarriesResponse d responseMode (readHeader buffer) env header := by
  have hcarries := carriesResponse_responseHeader d (responseModeFor_toNat_lt h.admitted.mode)
    (readHeader buffer) env
  have hacc : HeaderAccepted (responseHeader d responseMode (readHeader buffer) env) := by
    refine ⟨hcarries.vn, ?_, hstratum⟩
    rw [hcarries.mode]
    exact responseModeFor_ne_zero h.admitted.mode
  rw [responseTo_eq_writeHeader]
  exact ⟨_, parsesTo_writeHeader hacc s, hcarries⟩

/-- A client request is parsed back to mode 3 and its transmit timestamp. -/
theorem parsesTo_createNtpRequest (g : Globals) (t1 : NtpTimestamp) (s : IdoState) :
    ∃ header, ParsesTo (createNtpRequest g t1) s header ∧ header.mode = ntpModeClient ∧
      header.xmitTs = t1 := by
  have hclient : (ntpModeClient : UInt8).toNat < 8 := by decide
  have hbyte : (requestHeader g t1).liVnMode = packFirstByte 0 ntpVn4 ntpModeClient := rfl
  obtain ⟨-, hvn, hmode⟩ := unpack_packFirstByte hclient hbyte
  have hacc : HeaderAccepted (requestHeader g t1) := by
    refine ⟨hvn, ?_, ?_⟩
    · rw [hmode]
      decide
    · show (0 : UInt8) ≤ 16
      decide
  rw [createNtpRequest_eq_writeHeader]
  exact ⟨requestHeader g t1, parsesTo_writeHeader hacc s, hmode, rfl⟩

/-- The verdict on 48 bytes, and the bytes written back from the packet they were parsed into. -/
theorem parse_writeHeader {bytes : List UInt8} (hlen : bytes.length = 48) (s : IdoState) :
    let r := parseNtpPacket (Mem.ofList bytes) bytes.length NtpPacket.zero s
    (r.ok = true ↔ (bytes.getD 0 0 &&& ntpVnMask) >>> ntpVnShift = 4 ∧
        bytes.getD 0 0 &&& ntpModeMask ≠ 0 ∧ bytes.getD 1 0 ≤ 16) ∧
      writeHeader r.pkt.toNtpHeader = bytes := by
  intro r
  refine ⟨parseNtpPacket_zero_ok_iff _ hlen.ge s, ?_⟩
  have hpkt : r.pkt.toNtpHeader = readHeader (Mem.ofList bytes) := by
    rw [parseNtpPacket_zero_pkt _ hlen.ge s, readPacket_toNtpHeader]
  rw [hpkt, writeHeader_readHeader]
  refine List.ext_getElem (by rw [List.length_map, List.length_range, hlen]) fun i _ hi => ?_
  rw [List.getElem_map, List.getElem_range, Mem.ofList_apply, List.getD_eq_getElem?_getD,
    List.getElem?_eq_getElem hi, Option.getD_some]

/-- The header codec is a round trip both ways. -/
theorem headerCodec_roundTrip (s : IdoState) :
    (∀ (data : PeerRequestData) (env : RequestEnv) (d : Daemon) (buffer : Mem)
        (responseMode : UInt8), Handled data env d buffer responseMode →
        (if d.g.timeSynced then (modeGetDefaultStratum d).ret else 16) ≤ 16 →
        ∃ header, ParsesTo (responseTo d responseMode (readHeader buffer) env) s header ∧
          CarriesResponse d responseMode (readHeader buffer) env header) ∧
      (∀ (data : PeerRequestData) (env : RequestEnv) (d : Daemon),
        ∀ sent ∈ sends (handlePeerRequestThread data env d).trace, ∃ buffer responseMode,
          Handled data env d buffer responseMode ∧
            sent.2.2.1 = responseTo d responseMode (readHeader buffer) env) ∧
      (∀ (g : Globals) (t1 : NtpTimestamp), ∃ header, ParsesTo (createNtpRequest g t1) s header ∧
        header.mode = ntpModeClient ∧ header.xmitTs = t1) ∧
      ∀ bytes : List UInt8, bytes.length = 48 →
        let r := parseNtpPacket (Mem.ofList bytes) bytes.length NtpPacket.zero s
        (r.ok = true ↔ (bytes.getD 0 0 &&& ntpVnMask) >>> ntpVnShift = 4 ∧
            bytes.getD 0 0 &&& ntpModeMask ≠ 0 ∧ bytes.getD 1 0 ≤ 16) ∧
          writeHeader r.pkt.toNtpHeader = bytes :=
  ⟨fun _ _ _ _ _ h hstratum => h.parsesTo hstratum s,
    fun _ _ _ _ hs => exists_responseTo_of_mem_sends hs,
    fun g t1 => parsesTo_createNtpRequest g t1 s, fun _ hlen => parse_writeHeader hlen s⟩

/-- A synchronised server that serves everybody. -/
def openServer : Daemon :=
  { syncedServer with mode := ⟨{ ModeConfig.init with aclDefaultPolicy := 0 }, [], []⟩ }

/-- The request of a client at `10.0.0.1`. -/
def sampleRequest : PeerRequestData :=
  ⟨some (Mem.ofList (createNtpRequest Globals.init ⟨3900000000, 5⟩)), 48, "10.0.0.1".toList,
    "123".toList⟩

theorem handled_sampleRequest : Handled sampleRequest workingRequestEnv openServer
    (Mem.ofList (createNtpRequest Globals.init ⟨3900000000, 5⟩)) ntpModeServer where
  received := rfl
  ip := by decide
  port := by decide
  parses := (parseNtpPacket_ok_iff _ _ _ _).mpr (by decide)
  admitted := ⟨by decide, by decide, by decide, by decide, by decide, by decide +kernel⟩
  li := by decide

theorem headerCodec_sampleRequest :
    let response := responseTo openServer ntpModeServer
      (readHeader (Mem.ofList (createNtpRequest Globals.init ⟨3900000000, 5⟩))) workingRequestEnv
    ∃ header, ParsesTo response IdoState.init header ∧ header.origTs = ⟨3900000000, 5⟩ ∧
      writeHeader (parseNtpPacket (Mem.ofList response) response.length NtpPacket.zero
        IdoState.init).pkt.toNtpHeader = response := by
  intro response
  obtain ⟨hresponse, -, -, hbytes⟩ := headerCodec_roundTrip IdoState.init
  obtain ⟨header, hparses, hcarries⟩ := hresponse _ _ _ _ _ handled_sampleRequest (by decide)
  exact ⟨header, hparses, hcarries.origTs.trans (by decide), (hbytes response rfl).2⟩

end Dntpd
