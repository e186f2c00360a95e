import DpdkTcp.Model.Transmit

/-!
# The timeouts an engine accepts

What `dpdk_net_engine_create` does to the three timeouts of a configuration:
zeros stand for defaults, a preset overrides two of the fields, and
`Engine::new` compares the bounds.
-/

namespace DpdkTcp

/-- The least timeout when the caller gives none. -/
def DEFAULT_MIN_RTO_US : ℕ := 5000

/-- The first timeout when the caller gives none. -/
def DEFAULT_INITIAL_RTO_US : ℕ := 5000

/-- The greatest timeout when the caller gives none. -/
def DEFAULT_MAX_RTO_US : ℕ := 1000000

/-- The preset that leaves the configuration as it is. -/
def DPDK_NET_PRESET_LATENCY : UInt8 := 0

/-- The preset that goes by the RFCs. -/
def DPDK_NET_PRESET_RFC_COMPLIANCE : UInt8 := 1

/-- `Error::InvalidRtoBounds`. -/
structure InvalidRtoBounds where
  min : ℕ
  max : ℕ
deriving DecidableEq, Repr

namespace EngineConfig

/-- Zero means the default. -/
def substituteRto (cfg : EngineConfig) : EngineConfig :=
  { cfg with
    tcpMinRtoUs := if cfg.tcpMinRtoUs = 0 then DEFAULT_MIN_RTO_US else cfg.tcpMinRtoUs
    tcpInitialRtoUs :=
      if cfg.tcpInitialRtoUs = 0 then DEFAULT_INITIAL_RTO_US else cfg.tcpInitialRtoUs
    tcpMaxRtoUs := if cfg.tcpMaxRtoUs = 0 then DEFAULT_MAX_RTO_US else cfg.tcpMaxRtoUs }

/-- `apply_preset`, on the timeouts. -/
def applyPreset (preset : UInt8) (coreCfg : EngineConfig) : Except Unit EngineConfig :=
  if preset = DPDK_NET_PRESET_LATENCY then .ok coreCfg
  else if preset = DPDK_NET_PRESET_RFC_COMPLIANCE then
    .ok { coreCfg with tcpMinRtoUs := 200000, tcpInitialRtoUs := 1000000 }
  else .error ()

/-- The check at the head of `Engine::new`. -/
def checkRtoBounds (cfg : EngineConfig) : Except InvalidRtoBounds Unit :=
  if cfg.tcpMaxRtoUs < cfg.tcpMinRtoUs then .error ⟨cfg.tcpMinRtoUs, cfg.tcpMaxRtoUs⟩ else .ok ()

theorem checkRtoBounds_eq_ok_iff {cfg : EngineConfig} :
    cfg.checkRtoBounds = .ok () ↔ cfg.tcpMinRtoUs ≤ cfg.tcpMaxRtoUs := by
  unfold checkRtoBounds
  split
  · rename_i crossed
    exact ⟨nofun, fun ordered => absurd crossed (Nat.not_lt.mpr ordered)⟩
  · rename_i ordered
    exact ⟨fun _ => Nat.not_lt.mp ordered, fun _ => rfl⟩

end EngineConfig

end DpdkTcp
