import DpdkTcp.Model.Conn
import DpdkTcp.Model.Output

/-!
# Initial sequence numbers

`siphash24.rs` and the generator of `iss.rs`. The secret and the boot nonce are what
`read_process_secret` and `read_boot_id` returned, the clock reading is an argument.
-/

namespace DpdkTcp

/-- The four words SipHash works on. -/
structure SipState where
  v0 : BitVec 64
  v1 : BitVec 64
  v2 : BitVec 64
  v3 : BitVec 64

/-- One round of SipHash. -/
def sipround (state : SipState) : SipState :=
  let v0 := state.v0 + state.v1
  let v1 := state.v1.rotateLeft 13 ^^^ v0
  let v0 := v0.rotateLeft 32
  let v2 := state.v2 + state.v3
  let v3 := state.v3.rotateLeft 16 ^^^ v2
  let v0 := v0 + v3
  let v3 := v3.rotateLeft 21 ^^^ v0
  let v2 := v2 + v1
  let v1 := v1.rotateLeft 17 ^^^ v2
  let v2 := v2.rotateLeft 32
  ⟨v0, v1, v2, v3⟩

/-- `u64::from_le_bytes`, also of fewer than eight bytes. -/
def leWord : List UInt8 → BitVec 64
  | [] => 0#64
  | byte :: rest => BitVec.ofNat 64 byte.toNat ||| leWord rest <<< 8

/-- What is done with one word of the message. -/
def SipState.absorb (state : SipState) (word : BitVec 64) : SipState :=
  let mixed := sipround (sipround { state with v3 := state.v3 ^^^ word })
  { mixed with v0 := mixed.v0 ^^^ word }

/-- The loop over the full words, with the bytes it leaves. -/
def SipState.absorbWords : SipState → List UInt8 → SipState × List UInt8
  | state, b0 :: b1 :: b2 :: b3 :: b4 :: b5 :: b6 :: b7 :: rest =>
      (state.absorb (leWord [b0, b1, b2, b3, b4, b5, b6, b7])).absorbWords rest
  | state, remaining => (state, remaining)

/-- `siphash24`. -/
def siphash24 (key : Vector UInt8 16) (msg : List UInt8) : BitVec 64 :=
  let k0 := leWord (key.toList.take 8)
  let k1 := leWord (key.toList.drop 8)
  let start : SipState :=
    ⟨k0 ^^^ 0x736f6d6570736575#64, k1 ^^^ 0x646f72616e646f6d#64, k0 ^^^ 0x6c7967656e657261#64,
      k1 ^^^ 0x7465646279746573#64⟩
  let (words, remaining) := start.absorbWords msg
  let last := BitVec.ofNat 64 (msg.length % 256) <<< 56 ||| leWord remaining
  let absorbed := words.absorb last
  let final := sipround (sipround (sipround (sipround { absorbed with v2 := absorbed.v2 ^^^ 0xff#64 })))
  final.v0 ^^^ final.v1 ^^^ final.v2 ^^^ final.v3

-- a reference vector
example : siphash24 (Vector.ofFn fun i => UInt8.ofNat i) [0, 1, 2, 3, 4, 5, 6] =
    0xab0200f58b01d137#64 := by
  decide +kernel

/-- What the initial sequence numbers of an engine are drawn from. -/
structure IssGen where
  secret : Vector UInt8 16
  bootNonce : Vector UInt8 16

namespace IssGen

/-- The bytes that are hashed: the four-tuple, eight zeros and the boot nonce. -/
def message (gen : IssGen) (tuple : FourTuple) : List UInt8 :=
  be32 tuple.localIp ++ be16 tuple.localPort.toNat ++ be32 tuple.peerIp ++
    be16 tuple.peerPort.toNat ++ List.replicate 8 0 ++ gen.bootNonce.toList

/-- How often the clock of the generator has ticked, every four microseconds. -/
def ticks (nowNs : ℕ) : ℕ :=
  nowNs / 4000

/-- `next`: the hash of the tuple, moved on by the clock. -/
def next (gen : IssGen) (tuple : FourTuple) (nowNs : ℕ) : Seq :=
  (siphash24 gen.secret (gen.message tuple)).setWidth 32 + BitVec.ofNat 32 (ticks nowNs)

end IssGen

end DpdkTcp
