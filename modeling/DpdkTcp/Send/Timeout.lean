import DpdkTcp.Lib.Smoothing
import DpdkTcp.Lifecycle.Dispatch

/-!
# The retransmission timeout stays positive

A positive maximum and a positive first timeout keep every later timeout
positive: samples are taken between one and sixty million microseconds, so the
smoothed time never vanishes, and a backoff only doubles.
-/

namespace DpdkTcp

namespace RttEstimator

/-- The timeout is positive, and no sample or backoff will make it zero. -/
structure Lasting (est : RttEstimator) : Prop where
  rtoUs : 0 < est.rtoUs
  maxRto : 0 < est.maxRtoUs
  srtt : ∀ srtt, est.srttUs = some srtt → 0 < srtt ∧ srtt < 60000000

variable {est : RttEstimator}

theorem lasting_new {minRtoUs initialRtoUs maxRtoUs : ℕ} (first : 0 < max initialRtoUs minRtoUs)
    (bound : 0 < maxRtoUs) : (RttEstimator.new minRtoUs initialRtoUs maxRtoUs).Lasting :=
  ⟨first, bound, fun _ => nofun⟩

theorem Lasting.clampRto (lasting : est.Lasting) {rto : ℕ} (positive : 0 < rto) :
    0 < est.clampRto rto := by
  have bound := lasting.maxRto
  unfold RttEstimator.clampRto
  omega

theorem Lasting.sample (lasting : est.Lasting) {rttUs : ℕ} (small : rttUs < 60000000) :
    (est.sample rttUs).Lasting := by
  have smoothed : ∀ srtt, (est.sample rttUs).srttUs = some srtt → 0 < srtt ∧ srtt < 60000000 := by
    intro srtt known
    unfold RttEstimator.sample at known
    cases seeded : est.srttUs with
    | none =>
        rw [seeded] at known
        cases known
        dsimp only
        omega
    | some old =>
        rw [seeded] at known
        cases known
        have before := lasting.srtt old seeded
        have mixed : Smoothing.smooth 8 old (max rttUs 1) < 60000000 :=
          Smoothing.smooth_lt before.2 (by omega)
        unfold Smoothing.smooth at mixed
        dsimp only
        omega
  refine ⟨?_, lasting.maxRto, smoothed⟩
  rcases Option.isSome_iff_exists.mp (show (est.sample rttUs).srttUs.isSome from rfl) with ⟨srtt, known⟩
  have positive := (smoothed srtt known).1
  unfold RttEstimator.sample at known ⊢
  dsimp only at known ⊢
  refine lasting.clampRto ?_
  rw [Option.some.inj known]
  unfold U32_MAX
  omega

theorem Lasting.applyBackoff (lasting : est.Lasting) : est.applyBackoff.Lasting := by
  refine ⟨?_, lasting.maxRto, lasting.srtt⟩
  have before := lasting.rtoUs
  have bound := lasting.maxRto
  dsimp only [RttEstimator.applyBackoff]
  unfold U32_MAX
  omega

end RttEstimator

/-! ### Samples -/

/-- The estimator is the same, or has seen a believable sample. -/
def Sampled (before after : TcpConn) : Prop :=
  after.rttEst = before.rttEst ∨
    ∃ rttUs < 60000000, after.rttEst = before.rttEst.sample rttUs

variable {conn : TcpConn}

theorem plausibleRtt_lt {rttUs : BitVec 32} (believable : TcpConn.plausibleRtt rttUs = true) :
    rttUs.toNat < 60000000 :=
  (of_decide_eq_true believable).2

theorem maybeSeed_sampled (conn : TcpConn) (nowNs : ℕ) :
    Sampled conn (conn.maybeSeedSrttFromSyn nowNs) := by
  dsimp only [TcpConn.maybeSeedSrttFromSyn]
  split
  · exact .inl rfl
  · split
    · exact .inl rfl
    · split
      · rename_i believable
        exact .inr ⟨_, plausibleRtt_lt believable, rfl⟩
      · exact .inl rfl

theorem rttSample_lt {opts : TcpOpts} {nowNs rttUs : ℕ}
    (sampled : rttSample conn opts nowNs = some rttUs) : rttUs < 60000000 := by
  have stamped : ∀ {rtt : BitVec 32}, (if TcpConn.plausibleRtt rtt then some rtt.toNat else none) =
      some rttUs → rttUs < 60000000 := by
    intro rtt taken
    split at taken
    · rename_i believable
      cases taken
      exact plausibleRtt_lt believable
    · cases taken
  dsimp only [rttSample] at sampled
  split at sampled
  · rename_i rtt timed
    cases sampled
    split at timed
    · split at timed
      · split at timed
        · cases timed
        · exact stamped timed
      · cases timed
    · cases timed
  · split at sampled
    · split at sampled
      · rename_i accepted
        cases sampled
        exact plausibleRtt_lt (Bool.and_eq_true_iff.mp accepted).2
      · cases sampled
    · cases sampled

theorem updateWindow_rttEst (conn : TcpConn) (seg : ParsedSegment) :
    (updateWindow conn seg).rttEst = conn.rttEst := by
  unfold updateWindow
  split <;> rfl

theorem ackPass_sampled {seg : ParsedSegment} {opts : TcpOpts} {nowNs sendBuf : ℕ} {ack : AckPass}
    (passed : ackPass conn seg opts nowNs sendBuf = some ack) : Sampled conn ack.conn := by
  have absorbed : Sampled conn (absorbAck conn seg opts nowNs).1 := by
    unfold Sampled
    dsimp only [absorbAck]
    rw [updateWindow_rttEst]
    split
    · split
      · rename_i rttUs sampled
        exact .inr ⟨rttUs, rttSample_lt sampled, rfl⟩
      · exact .inl rfl
    · split
      · rename_i rttUs sampled
        exact .inr ⟨rttUs, rttSample_lt sampled, rfl⟩
      · exact .inl rfl
  dsimp only [ackPass] at passed
  split at passed
  · cases passed
    dsimp only
    split
    · exact absorbed
    · exact absorbed
  · split at passed
    · cases passed
    · cases passed
      exact .inl rfl

theorem SackChange.rttEst {before after : TcpConn} (change : SackChange before after) :
    after.rttEst = before.rttEst := by
  rw [change.only]

theorem DataChange.rttEst {before after : TcpConn} (change : DataChange before after) :
    after.rttEst = before.rttEst := by
  rw [change.only]

/-- A dispatch takes at most one sample. -/
theorem dispatch_sampled (conn : TcpConn) (seg : ParsedSegment) (clock : Readings) (sendBuf : ℕ)
    (mbufCtx : Option MbufInsertCtx) :
    Sampled conn (dispatch conn seg clock sendBuf mbufCtx).conn := by
  by_cases opening : conn.state = .synSent
  · unfold dispatch
    rw [opening]
    dsimp only [handleSynSent]
    split
    · split <;> exact .inl rfl
    · split
      · exact .inl rfl
      · split
        · exact .inl rfl
        · split
          · exact .inl rfl
          · split
            · exact .inl rfl
            · exact maybeSeed_sampled (adoptSynAck conn seg _ clock.synTsRecent) clock.synSeed
  · have closing : Sampled conn (handleClosePath conn seg clock).conn := by
      rcases (handleClosePath_cases conn seg clock).2 with
        ⟨same, _⟩ | ⟨_, opts, timed, expired, passed, advanced, _⟩
      · rw [same]
        exact .inl rfl
      · rcases paws_passed passed with ⟨tsRecent, tsRecentAge, rfl⟩
        rw [advanced, Sampled, closeAdvance_only]
        exact .inl (sackPass_change _ opts clock.dsack).rttEst
    unfold dispatch
    split
    · exact absurd ‹_› opening
    · rcases handleEstablished_cases conn seg clock sendBuf mbufCtx with
        ⟨_, _, tsRecent, tsRecentAge, change⟩ | ⟨opts, sack, ack, expired, accepted, processed⟩
      · exact .inl change.rttEst
      · rcases accepted.timed with ⟨timed, expired, passed, rfl⟩
        rcases paws_passed passed with ⟨tsRecent, tsRecentAge, rfl⟩
        have sacked := (sackPass_change (conn.stamp tsRecent tsRecentAge) opts clock.dsack).rttEst
        have sampled := ackPass_sampled accepted.acked
        rw [Sampled, sacked] at sampled
        rw [processed, Sampled]
        dsimp only [establishedData]
        rw [(takeFin_change seg _).rttEst, (deliver_change _ seg mbufCtx).rttEst, rackPass_only]
        exact sampled
    all_goals first
      | exact closing
      | exact .inl rfl

theorem dispatch_lasting (lasting : conn.rttEst.Lasting) (seg : ParsedSegment) (clock : Readings)
    (sendBuf : ℕ) (mbufCtx : Option MbufInsertCtx) :
    (dispatch conn seg clock sendBuf mbufCtx).conn.rttEst.Lasting := by
  rcases dispatch_sampled conn seg clock sendBuf mbufCtx with same | ⟨rttUs, small, sampled⟩
  · rw [same]
    exact lasting
  · rw [sampled]
    exact lasting.sample small

end DpdkTcp
