import DpdkTcp.Neighbour.Refusal

/-!
# Path MTUs

What ICMP does to a node. The table of path MTUs holds, for each address, the least MTU any
message ever reported for it, whatever else happened in between; nothing else of the node
depends on ICMP, so a run goes on as if its ICMP frames had never come.
-/

namespace DpdkTcp

/-! ### One message -/

/-- What a message says: a router cannot forward packets of more than an MTU to an address. -/
def fragNeeded (ipPayload : List UInt8) : Option (BitVec 32 × ℕ) :=
  let inner := ipPayload.drop 8
  let ihl := (inner.getD 0 0 &&& 0x0f).toNat
  let mtu := (beU16At ipPayload 6).toNat
  if 28 ≤ ipPayload.length ∧ ipPayload.getD 0 0 = ICMP_DEST_UNREACH ∧
      ipPayload.getD 1 0 = ICMP_CODE_FRAG_NEEDED ∧ inner.getD 0 0 >>> 4 = 4 ∧ 5 ≤ ihl ∧
      ihl * 4 ≤ inner.length ∧ mtu ≠ 0 then
    some (beU32At inner 16, mtu)
  else none

namespace PmtuTable

/-- The table after a report. -/
def lowered (table : PmtuTable) : Option (BitVec 32 × ℕ) → PmtuTable
  | none => table
  | some (ip, mtu) => (table.update ip mtu).1

theorem get_update (table : PmtuTable) (ip other : BitVec 32) (mtu : ℕ) :
    (table.update ip mtu).1.get other =
      if other = ip then some (((table.get ip).map (min · (max mtu IPV4_MIN_MTU))).getD
        (max mtu IPV4_MIN_MTU))
      else table.get other := by
  unfold update
  dsimp only
  cases found : table.get ip with
  | none => rfl
  | some existing =>
      dsimp only [Option.map_some, Option.getD_some]
      split
      · rename_i below
        rw [Nat.min_eq_left below]
        split
        · rename_i same
          rw [same]
          exact found
        · rfl
      · rename_i above
        rw [Nat.min_eq_right (Nat.le_of_not_ge above)]
        rfl

end PmtuTable

/-- A message is a report, or it is dropped. -/
theorem icmpInput_table (ipPayload : List UInt8) (pmtu : PmtuTable) :
    (icmpInput ipPayload pmtu).1 = pmtu.lowered (fragNeeded ipPayload) := by
  unfold icmpInput fragNeeded
  dsimp only
  generalize (beU16At ipPayload 6).toNat = mtu
  generalize ipPayload.drop 8 = inner
  split
  · rw [if_neg (by omega)]
    rfl
  · split
    · rename_i other
      rw [if_neg (by tauto)]
      rfl
    · rename_i wanted
      split
      · rw [if_neg (by omega)]
        rfl
      · split
        · rename_i broken
          rw [if_neg]
          · rfl
          · rintro ⟨_, _, _, version, long, whole, _⟩
            rcases broken with bad | small | cut
            · exact bad version
            · omega
            · omega
        · rename_i formed
          simp only [not_or, not_not, Nat.not_lt] at wanted formed
          split
          · rename_i zero
            rw [if_neg (by tauto)]
            rfl
          · rename_i positive
            dsimp only
            rw [if_pos ⟨by omega, wanted.1, wanted.2, formed.1, formed.2.1, formed.2.2, positive⟩]
            rfl

/-! ### The messages of a run -/

namespace Node

variable {node : Node}

/-- The ICMP message a node takes from a frame. -/
def icmpIn (node : Node) : NodeOp → Option (List UInt8)
  | .frame chain olFlags _ _ =>
      let bytes := mbufDataSliceForRx chain
      match l2Decode bytes node.ourMac with
      | .error _ => none
      | .ok l2 =>
          let payload := bytes.drop l2.payloadOffset
          if l2.ethertype = ETHERTYPE_ARP then none
          else
            match node.station.handleIpv4 ⟨payload, olFlags, some chain.head, chain.nbSegs,
                l2.payloadOffset⟩ with
            | (.icmp, some ip) => some ((payload.take ip.totalLen).drop ip.headerLen)
            | _ => none
  | _ => none

/-- A node with another table. -/
def withPmtu (node : Node) (pmtu : PmtuTable) : Node :=
  { node with pmtu := pmtu }

section WithPmtu

variable (pmtu : PmtuTable)

@[simp] theorem withPmtu_station : (node.withPmtu pmtu).station = node.station := rfl

@[simp] theorem withPmtu_localIp : (node.withPmtu pmtu).localIp = node.localIp := rfl

@[simp] theorem withPmtu_ourMac : (node.withPmtu pmtu).ourMac = node.ourMac := rfl

@[simp] theorem withPmtu_gatewayMac : (node.withPmtu pmtu).gatewayMac = node.gatewayMac := rfl

@[simp] theorem withPmtu_gatewayIp : (node.withPmtu pmtu).gatewayIp = node.gatewayIp := rfl

@[simp] theorem withPmtu_garpIntervalSec :
    (node.withPmtu pmtu).garpIntervalSec = node.garpIntervalSec := rfl

@[simp] theorem withPmtu_lastGarpNs : (node.withPmtu pmtu).lastGarpNs = node.lastGarpNs := rfl

@[simp] theorem withPmtu_lastGwArpReqNs :
    (node.withPmtu pmtu).lastGwArpReqNs = node.lastGwArpReqNs := rfl

end WithPmtu

/-- An ICMP message changes the table and nothing else, and nothing is sent. -/
theorem step_icmp {op : NodeOp} {message : List UInt8} (taken : node.icmpIn op = some message) :
    node.step op = (node.withPmtu (node.pmtu.lowered (fragNeeded message)), []) := by
  cases op with
  | announce | probe | station => cases taken
  | frame chain olFlags env accepted =>
      unfold icmpIn at taken
      unfold step rxFrame
      cases decoded : l2Decode (mbufDataSliceForRx chain) node.ourMac with
      | error dropped =>
          simp only [decoded] at taken
          cases taken
      | ok l2 =>
          simp only [decoded] at taken ⊢
          by_cases arp : l2.ethertype = ETHERTYPE_ARP
          · rw [if_pos arp] at taken
            cases taken
          · rw [if_neg arp] at taken ⊢
            split at taken
            · rename_i ip routed
              cases taken
              unfold handleIpv4
              simp only [routed]
              rw [icmpInput_table]
              rfl
            · cases taken

/-- Every other step neither reads nor writes the table. -/
theorem step_withPmtu {op : NodeOp} (other : node.icmpIn op = none) (pmtu : PmtuTable) :
    (node.withPmtu pmtu).step op = ((node.step op).1.withPmtu pmtu, (node.step op).2) := by
  cases op with
  | announce nowNs accepted =>
      simp only [step, maybeEmitGratuitousArp, withPmtu_garpIntervalSec, withPmtu_localIp,
        withPmtu_ourMac, withPmtu_lastGarpNs]
      by_cases off : node.garpIntervalSec = 0 ∨ node.localIp = 0#32
      · simp only [off, if_true]
      · simp only [off, if_false]
        by_cases early : nowNs - node.lastGarpNs < node.garpIntervalSec * 1000000000
        · simp only [early, if_true]
        · simp only [early, if_false]
          rfl
  | probe nowNs accepted =>
      simp only [step, maybeProbeGatewayMac, withPmtu_gatewayIp, withPmtu_localIp, withPmtu_ourMac,
        withPmtu_gatewayMac, withPmtu_lastGwArpReqNs]
      by_cases off : node.gatewayIp = 0#32 ∨ node.localIp = 0#32 ∨ node.gatewayMac ≠ ZERO_MAC
      · simp only [off, if_true]
      · simp only [off, if_false]
        by_cases early : nowNs - node.lastGwArpReqNs < PROBE_INTERVAL_NS
        · simp only [early, if_true]
        · simp only [early, if_false]
          rfl
  | station op => rfl
  | frame chain olFlags env accepted =>
      unfold icmpIn at other
      dsimp only [step, rxFrame] at other ⊢
      rw [withPmtu_ourMac]
      cases decoded : l2Decode (mbufDataSliceForRx chain) node.ourMac with
      | error _ => rfl
      | ok l2 =>
          rw [decoded] at other
          dsimp only at other ⊢
          split
          · unfold handleArp
            split
            · rfl
            · rw [withPmtu_localIp, withPmtu_gatewayIp]
              split <;> rfl
          · rename_i notArp
            rw [if_neg notArp] at other
            unfold handleIpv4
            rw [withPmtu_station]
            split
            · rename_i routed
              rw [routed] at other
              cases other
            · rfl
            · rfl

/-! ### Runs -/

/-- A node works through its operations: the node afterwards, and the frames it sent. -/
def run (node : Node) : List NodeOp → Node × List (List UInt8)
  | [] => (node, [])
  | op :: rest =>
      (((node.step op).1.run rest).1, (node.step op).2 ++ ((node.step op).1.run rest).2)

/-- What the ICMP messages of a run report. -/
def reports (node : Node) : List NodeOp → List (BitVec 32 × ℕ)
  | [] => []
  | op :: rest => ((node.icmpIn op).bind fragNeeded).toList ++ (node.step op).1.reports rest

/-- A run in which the ICMP messages never came. -/
def withoutIcmp (node : Node) : List NodeOp → List NodeOp
  | [] => []
  | op :: rest =>
      if (node.icmpIn op).isSome then node.withoutIcmp rest
      else op :: (node.step op).1.withoutIcmp rest

end Node

/-- The MTUs reported for an address; no path has less than the least MTU. -/
def reportedFor (ip : BitVec 32) (reports : List (BitVec 32 × ℕ)) : List ℕ :=
  (reports.filter fun report => report.1 = ip).map fun report => max report.2 IPV4_MIN_MTU

namespace PmtuTable

/-- A report counts as one more MTU. -/
theorem min?_get_lowered (table : PmtuTable) (report : Option (BitVec 32 × ℕ)) (ip : BitVec 32)
    (more : List ℕ) :
    (((table.lowered report).get ip).toList ++ more).min? =
      ((table.get ip).toList ++ (reportedFor ip report.toList ++ more)).min? := by
  cases report with
  | none => rfl
  | some report =>
      rcases report with ⟨reported, mtu⟩
      rw [lowered, get_update]
      by_cases same : ip = reported
      · subst same
        have one : reportedFor ip (some (ip, mtu)).toList = [max mtu IPV4_MIN_MTU] := by
          simp [reportedFor]
        rw [if_pos rfl, one]
        cases table.get ip <;> rfl
      · rw [if_neg same]
        simp [reportedFor, Ne.symm same]

end PmtuTable

namespace Node

variable {node : Node}

theorem step_pmtu (op : NodeOp) :
    (node.step op).1.pmtu = node.pmtu.lowered ((node.icmpIn op).bind fragNeeded) := by
  cases taken : node.icmpIn op with
  | some message =>
      rw [step_icmp taken]
      rfl
  | none =>
      have same := step_withPmtu taken node.pmtu
      rw [show node.withPmtu node.pmtu = node from rfl] at same
      exact congrArg (fun result => result.1.pmtu) same

theorem run_pmtu (node : Node) (ops : List NodeOp) (ip : BitVec 32) :
    (node.run ops).1.pmtu.get ip =
      ((node.pmtu.get ip).toList ++ reportedFor ip (node.reports ops)).min? := by
  induction ops generalizing node with
  | nil =>
      rw [run, reports, reportedFor]
      cases node.pmtu.get ip <;> rfl
  | cons op rest ih =>
      rw [run, reports, ih, step_pmtu, PmtuTable.min?_get_lowered]
      simp only [reportedFor, List.filter_append, List.map_append]

/-- The table holds the least MTU that was reported for an address, in whatever order the reports
came and whatever came between them. -/
theorem path_mtu_is_least (station : Station) (gatewayIp : BitVec 32) (garpIntervalSec : ℕ)
    (ops : List NodeOp) (ip : BitVec 32) :
    ((start station gatewayIp garpIntervalSec).run ops).1.pmtu.get ip =
      (reportedFor ip ((start station gatewayIp garpIntervalSec).reports ops)).min? :=
  run_pmtu (start station gatewayIp garpIntervalSec) ops ip

/-- But for its table of path MTUs a node ends as if no ICMP message had come, and sends the same
frames: ICMP closes, slows and redirects no connection. -/
theorem icmp_invisible (node : Node) (ops : List NodeOp) :
    ∃ pmtu, node.run ops =
      ((node.run (node.withoutIcmp ops)).1.withPmtu pmtu, (node.run (node.withoutIcmp ops)).2) := by
  have apart : ∀ (node : Node) (table : PmtuTable), ∃ pmtu, (node.withPmtu table).run ops =
      ((node.run (node.withoutIcmp ops)).1.withPmtu pmtu,
        (node.run (node.withoutIcmp ops)).2) := by
    induction ops with
    | nil => exact fun node table => ⟨table, rfl⟩
    | cons op rest ih =>
        intro node table
        have same : (node.withPmtu table).icmpIn op = node.icmpIn op := by cases op <;> rfl
        cases taken : node.icmpIn op with
        | some message =>
            rw [taken] at same
            rcases ih node ((node.withPmtu table).pmtu.lowered (fragNeeded message)) with ⟨pmtu, later⟩
            refine ⟨pmtu, ?_⟩
            rw [run, step_icmp same, withoutIcmp, taken, if_pos Option.isSome_some]
            exact later
        | none =>
            rcases ih (node.step op).1 table with ⟨pmtu, later⟩
            refine ⟨pmtu, ?_⟩
            rw [run, step_withPmtu taken, withoutIcmp, taken, if_neg (by decide), run]
            dsimp only
            rw [later]
  exact apart node node.pmtu

end Node

end DpdkTcp
