import DpdkTcp.Model.Ip

/-!
# ICMP

`icmp.rs`: only "fragmentation needed" is taken, for the destination of the packet
it was caused by. The table of path MTUs is the map of its entries.
-/

namespace DpdkTcp

/-- The type of a message about an unreachable destination. -/
def ICMP_DEST_UNREACH : UInt8 := 3

/-- The code for a packet too big for the next hop. -/
def ICMP_CODE_FRAG_NEEDED : UInt8 := 4

/-- The least MTU of IPv4. -/
def IPV4_MIN_MTU : ℕ := 68

/-- `PmtuTable`: each address has at most one entry. -/
structure PmtuTable where
  entries : BitVec 32 → Option ℕ

namespace PmtuTable

/-- `PmtuTable::new`. -/
def new : PmtuTable :=
  { entries := fun _ => none }

/-- The path MTU that is known for an address. -/
def get (table : PmtuTable) (ip : BitVec 32) : Option ℕ :=
  table.entries ip

/-- Another path MTU of an address. -/
def insert (table : PmtuTable) (ip : BitVec 32) (mtu : ℕ) : PmtuTable :=
  { entries := fun other => if other = ip then some mtu else table.entries other }

/-- `PmtuTable::update`, and whether an entry changed. An entry only shrinks. -/
def update (table : PmtuTable) (ip : BitVec 32) (mtu : ℕ) : PmtuTable × Bool :=
  let mtu := max mtu IPV4_MIN_MTU
  match table.get ip with
  | some existing =>
      if existing ≤ mtu then (table, false) else (table.insert ip mtu, true)
  | none => (table.insert ip mtu, true)

end PmtuTable

/-- What `icmp_input` made of a message. -/
inductive IcmpResult where
  | fragNeededPmtuUpdated
  | fragNeededNoShrink
  | otherDropped
  | malformed
deriving DecidableEq, Repr

/-- `icmp_input`, from the IPv4 payload. -/
def icmpInput (ipPayload : List UInt8) (pmtu : PmtuTable) : PmtuTable × IcmpResult :=
  if ipPayload.length < 8 then (pmtu, .malformed)
  else
    let ty := ipPayload.getD 0 0
    let code := ipPayload.getD 1 0
    if ty ≠ ICMP_DEST_UNREACH ∨ code ≠ ICMP_CODE_FRAG_NEEDED then (pmtu, .otherDropped)
    else
      let nextHopMtu := (beU16At ipPayload 6).toNat
      if ipPayload.length < 8 + 20 then (pmtu, .malformed)
      else
        let inner := ipPayload.drop 8
        let version := inner.getD 0 0 >>> 4
        let ihl := (inner.getD 0 0 &&& 0x0f).toNat
        if version ≠ 4 ∨ ihl < 5 ∨ inner.length < ihl * 4 then (pmtu, .malformed)
        else
          let innerDst := beU32At inner 16
          if nextHopMtu = 0 then (pmtu, .malformed)
          else
            let updated := pmtu.update innerDst nextHopMtu
            (updated.1, if updated.2 then .fragNeededPmtuUpdated else .fragNeededNoShrink)

end DpdkTcp
