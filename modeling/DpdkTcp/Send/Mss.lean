import DpdkTcp.Handshake.Stray
import DpdkTcp.Send.Contract

/-!
# Segment size and the negotiated maximum

The maximum segment size bounds the options and the payload of a segment
together. `send_bytes` cuts payloads of that size and puts the timestamps on top
of them, so a segment fits only where there are no timestamps or the bytes of
the call leave room for them. A retransmission is as long as the first
transmission.
-/

namespace DpdkTcp

/-- The total length field of the IPv4 header of a segment. -/
def SegmentTx.ipTotalLen (seg : SegmentTx) (payloadLen : ℕ) : ℕ :=
  IPV4_HDR_MIN + seg.tcpHdrLen + payloadLen

/-- The options and the payload of a segment fit in the maximum of its connection, and the
packet in what follows from it. -/
structure Engine.FitsMss (engine : Engine) (conn : TcpConn) (seg : SegmentTx) (payloadLen : ℕ) :
    Prop where
  segment : seg.options.encodedLen + payloadLen ≤ min conn.peerMss.toNat engine.cfg.tcpMss
  packet : seg.ipTotalLen payloadLen ≤ 40 + min conn.peerMss.toNat engine.cfg.tcpMss

theorem Engine.fitsMss_iff {engine : Engine} {conn : TcpConn} {seg : SegmentTx} {payloadLen : ℕ} :
    engine.FitsMss conn seg payloadLen ↔
      seg.options.encodedLen + payloadLen ≤ min conn.peerMss.toNat engine.cfg.tcpMss := by
  constructor
  · exact FitsMss.segment
  · intro fits
    refine ⟨fits, ?_⟩
    unfold SegmentTx.ipTotalLen SegmentTx.tcpHdrLen IPV4_HDR_MIN TCP_HDR_MIN
    omega

theorem beU16At_append (left right : List UInt8) (index : ℕ) :
    beU16At (left ++ right) (left.length + index) = beU16At right index := by
  have shift : ∀ offset, (left ++ right).getD (left.length + offset) 0 = right.getD offset 0 := by
    intro offset
    rw [List.getD_eq_getElem?_getD, List.getElem?_append_right (by omega), Nat.add_sub_cancel_left,
      List.getD_eq_getElem?_getD]
  unfold beU16At
  rw [Nat.add_assoc, shift, shift]

/-- A frame that is built carries the total length it was built for. -/
theorem buildSegmentInner_totalLen {seg : SegmentTx} {payloadForCsum : List UInt8}
    {declaredPayloadLen room : ℕ} {frame : List UInt8}
    (built : buildSegmentInner seg payloadForCsum declaredPayloadLen room = some frame) :
    (beU16At frame (ETH_HDR_LEN + 2)).toNat = seg.ipTotalLen declaredPayloadLen := by
  dsimp only [buildSegmentInner] at built
  split at built
  · cases built
  · split at built
    · cases built
    · rename_i short
      cases built
      have eth : seg.ethHeader.length = ETH_HDR_LEN := by simp [SegmentTx.ethHeader, ETH_HDR_LEN]
      have read : ∀ (total checksum : ℕ) (rest : List UInt8), total < 65536 →
          (beU16At (seg.ipHeader total checksum ++ rest) 2).toNat = total := by
        intro total checksum rest small
        have high : (UInt8.ofNat (total / 256)).toNat = total / 256 % 256 := UInt8.toNat_ofNat'
        have low : (UInt8.ofNat total).toNat = total % 256 := UInt8.toNat_ofNat'
        have bytes : beU16At (seg.ipHeader total checksum ++ rest) 2 =
            UInt16.ofNat ((UInt8.ofNat (total / 256)).toNat * 256 + (UInt8.ofNat total).toNat) :=
          rfl
        rw [bytes, high, low, show total / 256 % 256 * 256 + total % 256 = total by omega]
        exact UInt16.toNat_ofNat_of_lt' small
      rw [List.append_assoc, List.append_assoc, ← eth, beU16At_append]
      exact read _ _ _ (by omega)

/-- The frame of a segment that fits says so in its IPv4 header. -/
theorem Engine.FitsMss.totalLen_le {engine : Engine} {conn : TcpConn} {seg : SegmentTx}
    {payloadForCsum : List UInt8} {payloadLen room : ℕ} {frame : List UInt8}
    (fits : engine.FitsMss conn seg payloadLen)
    (built : buildSegmentInner seg payloadForCsum payloadLen room = some frame) :
    (beU16At frame (ETH_HDR_LEN + 2)).toNat ≤
      40 + min conn.peerMss.toNat engine.cfg.tcpMss := by
  rw [buildSegmentInner_totalLen built]
  exact fits.packet

/-! ### The segments of a call -/

namespace Engine

/-- What a call of `send_bytes` may be asked for so that its segments fit: nothing that can be
sent; without timestamps anything, if the maximum is not zero; and with timestamps, at least 12
bytes fewer than the maximum. -/
def sendFits (engine : Engine) (conn : TcpConn) (bytes : List UInt8) : Bool :=
  (engine.admitted conn bytes).isEmpty ||
    !conn.builds (min (engine.admitted conn bytes).length (engine.mssCap conn)) ||
    if conn.tsEnabled then
      (engine.admitted conn bytes).length + 12 ≤ min conn.peerMss.toNat engine.cfg.tcpMss
    else 0 < min conn.peerMss.toNat engine.cfg.tcpMss

variable {engine : Engine} {handle : ConnHandle} {conn : TcpConn} {bytes : List UInt8}
  {envs : ℕ → SendEnv}

/-- Every segment has the options of its connection, and the first turn can build its own. -/
theorem mem_sendCuts {mssCap turns : ℕ} {envs : ℕ → SendEnv} {sending : Sending} {seg : SegmentTx}
    (member : seg ∈ sendCuts conn handle mssCap turns envs sending) :
    seg.options.encodedLen = conn.optionBytes ∧ sending.rest ≠ [] ∧
      conn.builds (min sending.rest.length mssCap) = true := by
  induction turns generalizing envs sending with
  | zero => cases member
  | succ turns ih =>
      dsimp only [sendCuts] at member
      split at member
      · cases member
      · rename_i left
        have ended := sendSegment_ends conn handle mssCap (envs 0) sending
        split at member
        · rename_i next sent
          rw [sent] at ended
          cases ended with
          | sent built =>
              refine ⟨?_, left, built⟩
              rcases List.mem_cons.mp member with rfl | later
              · exact conn.encodedLen_txOptions _
              · exact (ih later).1
        · cases member

theorem dataSegments_eq (present : engine.flowTable.get handle = some conn)
    (running : conn.state = .established) (bytes : List UInt8) (envs : ℕ → SendEnv) :
    engine.dataSegments handle bytes envs =
      sendCuts conn handle (engine.mssCap conn) ((engine.admitted conn bytes).length + 1) envs
        ⟨engine, engine.admitted conn bytes, 0, conn.sndNxt⟩ := by
  rw [dataSegments, present]
  dsimp only
  rw [if_neg (not_not_intro running)]

/-- A segment of the call is no longer than what is admitted and than the cap. -/
theorem length_dataSegments (present : engine.flowTable.get handle = some conn)
    (running : conn.state = .established) {seg : SegmentTx}
    (member : seg ∈ engine.dataSegments handle bytes envs) :
    seg.payload.length ≤ (engine.admitted conn bytes).length ∧
      seg.payload.length ≤ engine.mssCap conn := by
  rw [dataSegments_eq present running] at member
  rcases sendSegments_cut handle conn (engine.mssCap_pos conn) (engine.mssCap_le conn)
    ((engine.admitted conn bytes).length + 1) envs
    ⟨engine, engine.admitted conn bytes, 0, conn.sndNxt⟩ with ⟨news, _, cut, _⟩
  exact ⟨cut.length_le seg member, (cut.sized seg member).2⟩

/-- The segments of a call fit, whatever buffers it gets, exactly where the call asks for what
fits. -/
theorem fitsMss_iff_sendFits (present : engine.flowTable.get handle = some conn)
    (running : conn.state = .established) (bytes : List UInt8) :
    (∀ envs, ∀ seg ∈ engine.dataSegments handle bytes envs,
        engine.FitsMss conn seg seg.payload.length) ↔ engine.sendFits conn bytes = true := by
  have cap : engine.mssCap conn = max (min conn.peerMss.toNat engine.cfg.tcpMss) 1 := rfl
  constructor
  · intro fits
    by_contra refused
    simp only [sendFits, Bool.or_eq_true, List.isEmpty_iff, Bool.not_eq_true', not_or,
      Bool.not_eq_false] at refused
    rcases refused with ⟨⟨nonempty, built⟩, long⟩
    have lengthPos : 0 < (engine.admitted conn bytes).length := List.length_pos_of_ne_nil nonempty
    -- a first segment that gets its buffer
    have first : ∃ rest, engine.dataSegments handle bytes (fun _ => ⟨some 0, true, 0, 0, 0⟩) =
        dataSegment conn (engine.mssCap conn) ⟨some 0, true, 0, 0, 0⟩
          ⟨engine, engine.admitted conn bytes, 0, conn.sndNxt⟩ :: rest := by
      rw [dataSegments_eq present running]
      dsimp only [sendCuts]
      rw [if_neg nonempty]
      have ended := sendSegment_ends conn handle (engine.mssCap conn) ⟨some 0, true, 0, 0, 0⟩
        ⟨engine, engine.admitted conn bytes, 0, conn.sndNxt⟩
      split
      · exact ⟨_, rfl⟩
      · rename_i other
        cases turn : sendSegment conn handle (engine.mssCap conn) ⟨some 0, true, 0, 0, 0⟩
          ⟨engine, engine.admitted conn bytes, 0, conn.sndNxt⟩ with
        | sent next => exact absurd turn (other next)
        | stopped next =>
            rw [turn] at ended
            cases ended with
            | stopped fails =>
                rw [built] at fails
                cases fails
        | noMem next =>
            rw [turn] at ended
            cases ended with
            | noMem short => cases short
    rcases first with ⟨rest, segments⟩
    have fit := fits (fun _ => ⟨some 0, true, 0, 0, 0⟩)
      (dataSegment conn (engine.mssCap conn) ⟨some 0, true, 0, 0, 0⟩
        ⟨engine, engine.admitted conn bytes, 0, conn.sndNxt⟩)
      (by rw [segments]; exact List.mem_cons_self ..)
    have options : (dataSegment conn (engine.mssCap conn) ⟨some 0, true, 0, 0, 0⟩
        ⟨engine, engine.admitted conn bytes, 0, conn.sndNxt⟩).options.encodedLen =
          conn.optionBytes := conn.encodedLen_txOptions _
    have payload : (dataSegment conn (engine.mssCap conn) ⟨some 0, true, 0, 0, 0⟩
        ⟨engine, engine.admitted conn bytes, 0, conn.sndNxt⟩).payload.length =
          min (engine.admitted conn bytes).length (engine.mssCap conn) := by
      dsimp only [dataSegment, segmentTx]
      rw [List.length_take]
      omega
    have size := fit.segment
    rw [options, payload, TcpConn.optionBytes] at size
    split at long <;> rename_i stamped
    · rw [if_pos stamped] at size
      rw [decide_eq_true_iff] at long
      omega
    · rw [if_neg stamped] at size
      rw [decide_eq_true_iff] at long
      omega
  · intro fits envs seg member
    rw [fitsMss_iff]
    have length := length_dataSegments present running member
    rw [dataSegments_eq present running] at member
    rcases mem_sendCuts member with ⟨options, nonempty, built⟩
    dsimp only at nonempty built
    simp only [sendFits, Bool.or_eq_true, List.isEmpty_iff, Bool.not_eq_true', nonempty, built,
      false_or, Bool.true_eq_false] at fits
    rw [options, TcpConn.optionBytes]
    split at fits <;> rename_i stamped
    · rw [if_pos stamped]
      rw [decide_eq_true_iff] at fits
      omega
    · rw [if_neg stamped]
      rw [decide_eq_true_iff] at fits
      omega

end Engine

/-! ### Retransmissions -/

/-- A segment of this length fits in the maximum of the connection. -/
def TcpConn.fitsLen (conn : TcpConn) (tcpMss len : ℕ) : Prop :=
  conn.optionBytes + len ≤ min conn.peerMss.toNat tcpMss

/-- Every segment in flight fits. -/
def TcpConn.EntriesFit (conn : TcpConn) (tcpMss : ℕ) : Prop :=
  ∀ entry ∈ conn.sndRetrans.entries, conn.fitsLen tcpMss entry.len

namespace TcpConn.EntriesFit

variable {before after : TcpConn} {tcpMss : ℕ}

/-- Segments that fitted fit as long as the maximum and the options stay. -/
theorem of_kept {entries : List RetransEntry} (kept : EntriesKept entries after.sndRetrans.entries)
    (fit : ∀ entry ∈ entries, before.fitsLen tcpMss entry.len)
    (peerMss : after.peerMss = before.peerMss) (tsEnabled : after.tsEnabled = before.tsEnabled) :
    after.EntriesFit tcpMss := by
  intro entry member
  rcases List.mem_iff_getElem?.mp member with ⟨index, found⟩
  rcases kept.getElem? found with ⟨original, foundBefore, same⟩
  have fits := fit original (List.mem_of_getElem? foundBefore)
  rw [TcpConn.fitsLen, TcpConn.optionBytes] at fits ⊢
  rw [peerMss, tsEnabled, same.len]
  exact fits

theorem of_nil (none : after.sndRetrans.entries = []) : after.EntriesFit tcpMss := by
  intro entry member
  rw [none] at member
  cases member

end TcpConn.EntriesFit

/-- The entries of a connection that `dispatch` has tended to are those it had. -/
theorem dispatch_entries (conn : TcpConn) (seg : ParsedSegment) (clock : Readings) (sendBuf : ℕ)
    (mbufCtx : Option MbufInsertCtx) :
    EntriesKept conn.sndRetrans.entries
      (dispatch conn seg clock sendBuf mbufCtx).conn.sndRetrans.entries := by
  cases dispatch_send conn seg clock sendBuf mbufCtx with
  | kept send => exact send.entries
  | opened _ send => exact send.entries
  | acked _ _ send => exact send.entries
  | closing _ _ send => exact send.entries

theorem TcpConn.mem_entriesLeft {conn : TcpConn} {advance : Option Seq} {entry : RetransEntry}
    (member : entry ∈ conn.entriesLeft advance) : entry ∈ conn.sndRetrans.entries := by
  cases advance with
  | none => exact member
  | some una => exact (List.dropWhile_suffix _).subset member

namespace Host

variable {host : Host}

/-- No entry of a live connection is longer than its segments may be. -/
def EntriesFit (host : Host) : Prop :=
  ∀ handle conn, host.engine.flowTable.get handle = some conn →
    conn.EntriesFit host.engine.cfg.tcpMss

/-- A call of `send_bytes` asks for what fits. -/
def sendsFit (host : Host) : SystemOp → Bool
  | .call (.send handle bytes _ _) =>
      (host.engine.flowTable.get handle).all fun conn =>
        conn.state != .established || host.engine.sendFits conn bytes
  | _ => true

/-- The entries of a call that asks for what fits fit. -/
theorem EntriesFit.send (before : host.EntriesFit) {handle : ConnHandle} {bytes : List UInt8}
    {envs : ℕ → SendEnv} {tlpNs : ℕ}
    (fits : host.sendsFit (.call (.send handle bytes envs tlpNs)) = true) {conn conn' : TcpConn}
    {news : List RetransEntry} (present : host.engine.flowTable.get handle = some conn)
    (live : (host.step (.send handle bytes envs tlpNs)).engine.flowTable.get handle = some conn')
    (sent : SentTo envs news conn conn') : conn'.EntriesFit host.engine.cfg.tcpMss := by
  have same : conn'.peerMss = conn.peerMss ∧ conn'.tsEnabled = conn.tsEnabled := by
    rcases sent.kept with ⟨_, kept⟩
    rw [kept.only]
    exact ⟨rfl, rfl⟩
  have result := host.engine.sendBytes_result handle bytes envs tlpNs
  dsimp only [Host.step] at live
  generalize host.engine.sendBytes handle bytes envs tlpNs = returned at result live
  cases result with
  | refused _ conns =>
      rw [conns, present] at live
      cases live
      exact before handle conn present
  | noMem _ conns =>
      rw [conns, present] at live
      cases live
      exact before handle conn present
  | ok found running liveAfter _ cut entries =>
      rw [present] at found
      cases found
      rw [live] at liveAfter
      cases liveAfter
      refine .of_kept entries ?_ same.1 same.2
      intro entry member
      rcases List.mem_append.mp member with old | new
      · exact before handle conn present entry old
      · rcases cut.entry_len entry new with ⟨seg, inCall, len⟩
        have asked : host.engine.sendFits conn bytes = true := by
          rw [sendsFit, present, Option.all_some, running] at fits
          exact fits
        have fit := ((Engine.fitsMss_iff_sendFits present running bytes).mpr asked envs seg
          inCall).segment
        have inCuts := inCall
        rw [Engine.dataSegments_eq present running] at inCuts
        rw [(Engine.mem_sendCuts inCuts).1] at fit
        rw [TcpConn.fitsLen, len]
        exact fit

theorem EntriesFit.call (before : host.EntriesFit) (syn : host.OnlySyn) {op : EngineOp}
    (fits : host.sendsFit (.call op) = true) : (host.step op).EntriesFit := by
  intro handle after live
  have step := host.step_conns op live
  rw [host.step_cfg op]
  generalize found : host.engine.flowTable.get handle = present at step
  cases step with
  | kept kept =>
      refine .of_kept kept.entries (before handle _ found) ?_ ?_ <;> rw [kept.only]
  | opening opening =>
      exact .of_nil (List.forall₂_nil_left_iff.mp opening.entries)
  | sent running news sent => exact before.send fits found live sent
  | @fin _ _ conn _ running sent state =>
      have same : conn.finSent.EntriesFit host.engine.cfg.tcpMss := before handle conn found
      refine .of_kept sent.entries same ?_ ?_ <;> rw [sent.only]
  | segment dispatched processed kept =>
      rename_i seg mbufCtx env conn
      subst processed
      have entries := dispatch_entries conn seg env.clock host.engine.cfg.sendBufferBytes mbufCtx
      by_cases opening : conn.state = .synSent
      · rw [(syn handle conn found opening).entries] at entries
        have none := List.forall₂_nil_left_iff.mp entries
        have left : (dispatch conn seg env.clock host.engine.cfg.sendBufferBytes
            mbufCtx).conn.entriesLeft (dispatch conn seg env.clock
              host.engine.cfg.sendBufferBytes mbufCtx).outcome.sndUnaAdvancedTo = [] := by
          rw [List.eq_nil_iff_forall_not_mem]
          intro entry member
          have old := TcpConn.mem_entriesLeft member
          rw [none] at old
          cases old
        have final := kept.entries
        rw [left] at final
        exact .of_nil (List.forall₂_nil_left_iff.mp final)
      · have tended := dispatch_tended opening seg env.clock host.engine.cfg.sendBufferBytes mbufCtx
        have same : after.peerMss = conn.peerMss ∧ after.tsEnabled = conn.tsEnabled := by
          rw [kept.only]
          dsimp only [TcpConn.enter]
          rw [tended.only]
          exact ⟨rfl, rfl⟩
        have dispatched : (dispatch conn seg env.clock host.engine.cfg.sendBufferBytes
            mbufCtx).conn.EntriesFit host.engine.cfg.tcpMss := by
          refine .of_kept entries (before handle conn found) ?_ ?_ <;> rw [tended.only]
        refine .of_kept kept.entries ?_ same.1 same.2
        intro entry member
        have fit := dispatched entry (TcpConn.mem_entriesLeft member)
        rw [TcpConn.fitsLen, TcpConn.optionBytes, tended.only] at fit
        exact fit

theorem EntriesFit.step (before : host.EntriesFit) (syn : host.OnlySyn) {op : SystemOp}
    (fits : host.sendsFit op = true) : (host.systemStep op).EntriesFit := by
  cases op with
  | call op => exact before.call syn fits
  | complete index =>
      intro handle conn live
      rw [systemStep_cfg]
      rw [systemStep, completeFrame_flowTable] at live
      exact before handle conn live
  | drainEvents max => exact before
  | drop =>
      intro handle conn live
      rw [systemStep, drop_get] at live
      cases live

/-- What a step retransmits belongs to a connection it finds, and was in flight there. -/
theorem picked_fits (before : host.EntriesFit) (op : EngineOp) {picks : List Picked}
    (picked : (host.step op).engine.picked = host.engine.picked ++ picks) :
    ∀ pick ∈ picks, ∃ conn, host.engine.flowTable.get pick.handle = some conn ∧
      conn.fitsLen host.engine.cfg.tcpMss pick.entry.len := by
  rcases host.step_picks op with ⟨picks', picked', origin⟩
  rw [picked'] at picked
  rw [← List.append_cancel_left picked]
  intro pick member
  rcases origin pick member with ⟨conn, index, entry, live, _, _, found, kept⟩ | rack
  · refine ⟨conn, live, ?_⟩
    rw [kept.len]
    exact before pick.handle conn live entry (List.mem_of_getElem? found)
  · cases op with
    | segment handle seg mbufCtx env =>
        rcases rack with ⟨conn, after, index, entry, same, live, rfl, _, _, found, kept⟩
        rcases (dispatch_entries conn seg env.clock host.engine.cfg.sendBufferBytes
          mbufCtx).getElem? found with ⟨original, foundBefore, whole⟩
        refine ⟨conn, same ▸ live, ?_⟩
        rw [kept.len, whole.len]
        exact before handle conn live original (List.mem_of_getElem? foundBefore)
    | connect | send | close | advance | fireNext | flush | reap | twSkip => exact rack.elim

end Host

theorem Engine.length_entryPayload_le (engine : Engine) (entry : RetransEntry) :
    (engine.entryPayload entry).length ≤ entry.len := by
  rw [Engine.entryPayload, List.length_take]
  exact Nat.min_le_left _ _

/-- In every run whose calls of `send_bytes` ask for what fits, every data segment fits in the
negotiated maximum: those of a call exactly if it asks for what fits, whatever buffers it gets,
and those sent again. -/
theorem data_segments_fit_mss {cfg : EngineConfig} {maxConnections eventSoftCap : ℕ} {host : Host}
    (run : Run.Reaches Host.systemStep (fun host op => host.sendsFit op = true)
      (Host.start cfg maxConnections eventSoftCap) host) :
    (∀ handle conn, host.engine.flowTable.get handle = some conn → conn.state = .established →
      ∀ bytes, (∀ envs, ∀ seg ∈ host.engine.dataSegments handle bytes envs,
        host.engine.FitsMss conn seg seg.payload.length) ↔
          host.engine.sendFits conn bytes = true) ∧
    ∀ op picks, (host.step op).engine.picked = host.engine.picked ++ picks →
      ∀ pick ∈ picks, ∃ conn, host.engine.flowTable.get pick.handle = some conn ∧
        ∀ engine : Engine, engine.cfg = host.engine.cfg → ∀ nowNs,
          engine.FitsMss conn (engine.retransSegment conn pick.entry nowNs)
            (engine.entryPayload pick.entry).length := by
  have fit : host.EntriesFit ∧ host.OnlySyn := by
    apply run.invariant
    · refine ⟨?_, ?_⟩ <;> intro handle conn live <;> rw [Host.get_start] at live <;> cases live
    · exact fun host op before fits => ⟨before.1.step before.2 fits, before.2.step op⟩
  refine ⟨fun handle conn present running bytes =>
    Engine.fitsMss_iff_sendFits present running bytes, ?_⟩
  intro op picks picked pick member
  rcases Host.picked_fits fit.1 op picked pick member with ⟨conn, live, fits⟩
  refine ⟨conn, live, fun engine cfg nowNs => ?_⟩
  have short := engine.length_entryPayload_le pick.entry
  have options : (engine.retransSegment conn pick.entry nowNs).options.encodedLen =
      conn.optionBytes := conn.encodedLen_txOptions nowNs
  rw [TcpConn.fitsLen] at fits
  rw [Engine.fitsMss_iff, options, cfg]
  omega

/-- The peer answers without timestamps, and three bytes are sent. -/
def sentPlain : List SystemOp :=
  openedWith 5000 ++ [.call (sendAt 2000 [1, 2, 3] 1)]

/-- Without timestamps a call may ask for more than a segment holds. -/
theorem data_segments_fit_mss_plain :
    ∃ conn, (sentPlain.foldl Host.systemStep (Host.start quickCfg 1 64)).engine.flowTable.get 1 =
        some conn ∧ conn.sndRetrans.entries.length = 1 ∧
      ∀ envs, ∀ seg ∈ (sentPlain.foldl Host.systemStep
          (Host.start quickCfg 1 64)).engine.dataSegments 1 (List.replicate 600 7) envs,
        (sentPlain.foldl Host.systemStep (Host.start quickCfg 1 64)).engine.FitsMss conn seg
          seg.payload.length := by
  have admitted : Run.admits Host.systemStep Host.sendsFit (Host.start quickCfg 1 64)
      sentPlain = true := by decide +kernel
  have sent : ((sentPlain.foldl Host.systemStep (Host.start quickCfg 1 64)).engine.flowTable.get
      1).any (fun conn => conn.sndRetrans.entries.length == 1 && conn.state == .established &&
        (sentPlain.foldl Host.systemStep (Host.start quickCfg 1 64)).engine.sendFits conn
          (List.replicate 600 7)) = true := by decide +kernel
  rcases (Option.any_eq_true _ _).mp sent with ⟨conn, present, facts⟩
  simp only [Bool.and_eq_true, beq_iff_eq] at facts
  exact ⟨conn, present, facts.1.1,
    ((data_segments_fit_mss (.of_admits admitted)).1 1 conn present facts.1.2 _).mpr facts.2⟩

/-- The peer answers with a maximum of 20 bytes and timestamps. -/
def synAckStamped : ParsedSegment :=
  { synAck 100#32 200#32 5000 with
    options := [OPT_MSS, 4, 0, 20, OPT_NOP, OPT_NOP, OPT_TIMESTAMP, 10, 0, 0, 0, 9, 0, 0, 0, 1] }

/-- With timestamps a full segment is 12 bytes too long. -/
theorem data_segment_exceeds_mss :
    ¬ ∀ host, Run.Reaches Host.systemStep (fun _ _ => True) (Host.start quickCfg 1 64) host →
      ∀ handle conn, host.engine.flowTable.get handle = some conn → ∀ bytes envs,
        ∀ seg ∈ host.engine.dataSegments handle bytes envs,
          host.engine.FitsMss conn seg seg.payload.length := by
  intro fits
  have run : Run.Reaches Host.systemStep (fun _ _ => True) (Host.start quickCfg 1 64)
      (((Host.start quickCfg 1 64).systemStep opening).systemStep
        (.call (.segment 1 synAckStamped none (inputAt 1000)))) :=
    .tail _ (.tail opening .refl trivial) trivial
  have small : ((((Host.start quickCfg 1 64).systemStep opening).systemStep
      (.call (.segment 1 synAckStamped none (inputAt 1000)))).engine.flowTable.get 1).any
        (fun conn => conn.peerMss.toNat == 20) = true := by decide +kernel
  have exceeds : ((((Host.start quickCfg 1 64).systemStep opening).systemStep
      (.call (.segment 1 synAckStamped none (inputAt 1000)))).engine.dataSegments 1
        (List.replicate 30 7) (fun _ => ⟨some 1, true, 0, 2000, 2000⟩)).any
          (fun seg => decide (20 < seg.options.encodedLen + seg.payload.length)) = true := by
    decide +kernel
  rcases (Option.any_eq_true _ _).mp small with ⟨conn, present, mss⟩
  rcases List.any_eq_true.mp exceeds with ⟨seg, member, size⟩
  have fit := (fits _ run 1 conn present _ _ seg member).segment
  rw [beq_iff_eq] at mss
  rw [decide_eq_true_iff] at size
  rw [mss] at fit
  omega

end DpdkTcp
