import DpdkTcp.Window.Advert

/-!
# Negotiated options

An option is in use behind the handshake when our SYN offered it and the SYN-ACK
carried it. The SYN follows the engine's configuration, but the connection takes
over what the SYN-ACK carries without a look at what was offered.
-/

namespace DpdkTcp

/-- The options a connection works with are those both sides sent. -/
structure TcpOpts.Agreed (offered carried : TcpOpts) (conn : TcpConn) : Prop where
  timestamps : conn.tsEnabled = true ↔
    offered.timestamps.isSome = true ∧ carried.timestamps.isSome = true
  sack : conn.sackEnabled = true ↔ offered.sackPermitted = true ∧ carried.sackPermitted = true
  scaleIn : conn.wsShiftIn ≠ 0 → offered.wscale.isSome = true ∧ carried.wscale.isSome = true
  scaleOut : conn.wsShiftOut ≠ 0 → offered.wscale.isSome = true ∧ carried.wscale.isSome = true

section Adopted

variable {conn : TcpConn} {seg : ParsedSegment} {clock : Readings}

/-- A connection is reported by the branch of a valid SYN-ACK alone. -/
theorem handleSynSent_connected
    (connected : (handleSynSent conn seg clock).outcome.connected = true) :
    ∃ opts, parseOptions seg.options = .ok opts ∧
      (handleSynSent conn seg clock).conn =
        { (adoptSynAck conn seg opts clock.synTsRecent).maybeSeedSrttFromSyn clock.synSeed with
          synRetransTimerId := none } := by
  unfold handleSynSent at connected ⊢
  split
  · rename_i reset
    rw [if_pos reset] at connected
    split at connected <;> cases connected
  · rename_i reset
    rw [if_neg reset] at connected
    split
    · rename_i noSyn
      rw [if_pos noSyn] at connected
      cases connected
    · rename_i syn
      rw [if_neg syn] at connected
      split
      · rename_i noAck
        rw [if_pos noAck] at connected
        cases connected
      · rename_i acked
        rw [if_neg acked] at connected
        split
        · rename_i unknown
          rw [if_pos unknown] at connected
          cases connected
        · rename_i known
          rw [if_neg known] at connected
          split
          · rename_i reason malformed
            rw [malformed] at connected
            cases connected
          · rename_i opts parsed
            exact ⟨opts, parsed, rfl⟩

theorem tsEnabled_adoptSynAck (opts : TcpOpts) (nowNs : ℕ) :
    (adoptSynAck conn seg opts nowNs).tsEnabled = opts.timestamps.isSome :=
  rfl

theorem sackEnabled_adoptSynAck (opts : TcpOpts) (nowNs : ℕ) :
    (adoptSynAck conn seg opts nowNs).sackEnabled = opts.sackPermitted :=
  rfl

theorem wsShiftIn_adoptSynAck {opts : TcpOpts} {nowNs : ℕ}
    (scaled : (adoptSynAck conn seg opts nowNs).wsShiftIn ≠ 0) : opts.wscale.isSome = true := by
  cases carried : opts.wscale with
  | none => simp [adoptSynAck, carried] at scaled
  | some shift => rfl

theorem wsShiftOut_adoptSynAck {opts : TcpOpts} {nowNs : ℕ}
    (scaled : (adoptSynAck conn seg opts nowNs).wsShiftOut ≠ 0) : opts.wscale.isSome = true := by
  cases carried : opts.wscale with
  | none => simp [adoptSynAck, carried] at scaled
  | some shift => rfl

/-- The negotiation is an agreement exactly when the SYN-ACK carries no option that our
configuration keeps out of the SYN. -/
theorem options_agreed_iff {engine : Engine} {opts : TcpOpts} (synNs : ℕ)
    (connected : (handleSynSent conn seg clock).outcome.connected = true)
    (parsed : parseOptions seg.options = .ok opts) :
    (engine.synOpts conn synNs).Agreed opts (handleSynSent conn seg clock).conn ↔
      (opts.timestamps.isSome = true → engine.cfg.tcpTimestamps = true) ∧
        (opts.sackPermitted = true → engine.cfg.tcpSack = true) := by
  rcases handleSynSent_connected connected with ⟨carried, decoded, adopted⟩
  rw [parsed] at decoded
  cases decoded
  rw [adopted, maybeSeed_only]
  have offeredTs : (engine.synOpts conn synNs).timestamps.isSome = engine.cfg.tcpTimestamps := by
    dsimp only [Engine.synOpts, buildConnectSynOpts]
    cases engine.cfg.tcpTimestamps <;> rfl
  have offeredSack : (engine.synOpts conn synNs).sackPermitted = engine.cfg.tcpSack := rfl
  have offeredScale : (engine.synOpts conn synNs).wscale.isSome = true := rfl
  constructor
  · rintro ⟨timestamps, sack, _, _⟩
    dsimp only at timestamps sack
    rw [tsEnabled_adoptSynAck, offeredTs] at timestamps
    rw [sackEnabled_adoptSynAck, offeredSack] at sack
    exact ⟨fun carriedTs => (timestamps.mp carriedTs).1,
      fun carriedSack => (sack.mp carriedSack).1⟩
  · rintro ⟨timestamps, sack⟩
    refine ⟨?_, ?_, ?_, ?_⟩
    · dsimp only
      rw [tsEnabled_adoptSynAck, offeredTs]
      exact ⟨fun carriedTs => ⟨timestamps carriedTs, carriedTs⟩, And.right⟩
    · dsimp only
      rw [sackEnabled_adoptSynAck, offeredSack]
      exact ⟨fun carriedSack => ⟨sack carriedSack, carriedSack⟩, And.right⟩
    · intro scaled
      dsimp only at scaled
      exact ⟨offeredScale, wsShiftIn_adoptSynAck scaled⟩
    · intro scaled
      dsimp only at scaled
      exact ⟨offeredScale, wsShiftOut_adoptSynAck scaled⟩

end Adopted

/-! ### An option nobody asked for -/

/-- An engine that is told not to use timestamps. -/
def untimedEngine : Engine :=
  { openedEngine with cfg := { openedEngine.cfg with tcpTimestamps := false } }

/-- A SYN-ACK with a timestamps option. -/
def timedSynAck : ParsedSegment :=
  { synAck 100#32 200#32 5000 with
    headerLen := 32
    options := [OPT_NOP, OPT_NOP, OPT_TIMESTAMP, 10, 0, 0, 0, 7, 0, 0, 0, 0] }

/-- What it carries. -/
def timedOpts : TcpOpts :=
  { timestamps := some (7#32, 0#32) }

/-- A SYN-ACK that accepts timestamps and SACK. -/
def agreedSynAck : ParsedSegment :=
  { synAck 100#32 200#32 5000 with
    headerLen := 36
    options :=
      [OPT_SACK_PERMITTED, 2, OPT_TIMESTAMP, 10, 0, 0, 0, 7, 0, 0, 0, 0, OPT_NOP, OPT_NOP,
        OPT_NOP, OPT_NOP] }

/-- What it carries. -/
def agreedOpts : TcpOpts :=
  { timestamps := some (7#32, 0#32), sackPermitted := true }

/-- Both were offered, and both are in use. -/
theorem options_agreed_iff_both :
    (openedEngine.synOpts (synSent 100#32 1000 1000) 1000).Agreed agreedOpts
        (handleSynSent (synSent 100#32 1000 1000) agreedSynAck (Readings.at 1000)).conn ∧
      (handleSynSent (synSent 100#32 1000 1000) agreedSynAck (Readings.at 1000)).conn.tsEnabled =
        true ∧
      (handleSynSent (synSent 100#32 1000 1000) agreedSynAck (Readings.at 1000)).conn.sackEnabled =
        true :=
  ⟨(options_agreed_iff 1000 (by decide +kernel) (by decide +kernel)).mpr
      ⟨fun _ => rfl, fun _ => rfl⟩, by decide +kernel, by decide +kernel⟩

/-- Timestamps that were never offered are switched on. -/
theorem options_adopted_unilaterally :
    ¬ ∀ (engine : Engine) (conn : TcpConn) (seg : ParsedSegment) (clock : Readings)
        (opts : TcpOpts) (synNs : ℕ),
      (handleSynSent conn seg clock).outcome.connected = true →
      parseOptions seg.options = .ok opts →
      (engine.synOpts conn synNs).Agreed opts (handleSynSent conn seg clock).conn := by
  intro agreed
  have here := agreed untimedEngine (synSent 100#32 1000 1000) timedSynAck (Readings.at 1000)
    timedOpts 1000 (by decide +kernel) (by decide +kernel)
  have enabled : (handleSynSent (synSent 100#32 1000 1000) timedSynAck
      (Readings.at 1000)).conn.tsEnabled = true := by
    decide +kernel
  have offered := (here.timestamps.mp enabled).1
  simp [Engine.synOpts, buildConnectSynOpts, untimedEngine] at offered

end DpdkTcp
