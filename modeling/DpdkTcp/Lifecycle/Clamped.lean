import DpdkTcp.Input.Opened
import DpdkTcp.Lifecycle.Carry
import DpdkTcp.Window.Advert

/-!
# What is clamped once and for all

The constructor clamps the receive window and the handshake the shift of the peer.
Nothing that happens to a connection afterwards touches either, so in every run each
live connection is clamped.
-/

namespace DpdkTcp

/-- A clamped connection stays so under every edit, and a new one is clamped. -/
theorem carries_clamped :
    Engine.Carries (fun _ => True) (fun before after => before.Clamped → after.Clamped)
      TcpConn.Clamped where
  refl := fun _ => id
  trans := fun first second clamped => second (first clamped)
  edit := by
    intro edit conn _ _ clamped
    cases edit with
    | dispatch seg clock sendBuf mbufCtx => exact clamped_dispatch clamped seg clock sendBuf mbufCtx
    | strike kind id => cases kind <;> exact ⟨clamped.rcvWnd_le, clamped.wsShiftIn_le⟩
    | arm kind id => cases kind <;> exact ⟨clamped.rcvWnd_le, clamped.wsShiftIn_le⟩
    | _ => exact ⟨clamped.rcvWnd_le, clamped.wsShiftIn_le⟩
  arm := by
    intro conn kind id _ clamped
    cases kind <;> exact ⟨clamped.rcvWnd_le, clamped.wsShiftIn_le⟩
  stop := by
    intro conn kind id _ clamped
    cases kind <;> exact ⟨clamped.rcvWnd_le, clamped.wsShiftIn_le⟩
  forget := fun _ _ clamped => ⟨clamped.rcvWnd_le, clamped.wsShiftIn_le⟩
  insert := by
    intro engine tuple iss ourMss opts nowNs _
    have clamped := clamped_newClient tuple iss ourMss engine.cfg.recvBufferBytes
      engine.cfg.sendBufferBytes engine.cfg.tcpMinRtoUs engine.cfg.tcpInitialRtoUs
      engine.cfg.tcpMaxRtoUs
    exact ⟨clamped.rcvWnd_le, clamped.wsShiftIn_le⟩
  new := fun clamped keeps => keeps clamped

namespace Host

variable {host : Host} {handle : ConnHandle} {conn : TcpConn}

/-- Every live connection is clamped. -/
def Clamped (host : Host) : Prop :=
  ∀ handle conn, host.engine.flowTable.get handle = some conn → conn.Clamped

theorem Clamped.step (clamped : host.Clamped) (op : EngineOp) : (host.step op).Clamped := by
  intro handle conn live
  have worked : (∀ nowNs, op ≠ .advance nowNs) → conn.Clamped := by
    intro still
    rcases ((host.step_work still).carried (carries_clamped.mono fun _ _ => trivial) live) with
      ⟨_, earlier, present, keeps⟩ | ⟨_, new⟩
    · exact keeps (clamped handle earlier present)
    · exact new
  cases op with
  | advance nowNs => exact clamped handle conn live
  | connect | send | close | segment | fireNext | flush | reap | twSkip => exact worked nofun

/-- In every run each live connection has a receive window that fits an unscaled header, and the
shift of its peer is at most 14. -/
theorem clamped_of_reaches {cfg : EngineConfig} {maxConnections eventSoftCap : ℕ}
    (run : Run.Reaches systemStep (fun _ _ => True) (start cfg maxConnections eventSoftCap) host) :
    host.Clamped := by
  apply run.invariant
  · intro handle conn live
    rw [get_start] at live
    cases live
  · intro host op clamped _
    cases op with
    | call op => exact clamped.step op
    | complete index =>
        intro handle conn live
        rw [systemStep, completeFrame_flowTable] at live
        exact clamped handle conn live
    | drainEvents max => exact clamped
    | drop =>
        intro handle conn live
        rw [systemStep, drop_get] at live
        cases live

end Host

end DpdkTcp
