import DpdkTcp.Lib.Pace
import DpdkTcp.Neighbour.Lan

/-!
# The pace of announcements and questions

What a node tells its segment of its own accord is bounded in time, not by what it hears or by
what its driver takes: over any run, and by any clock, a span of time holds one announcement
for each interval that was asked for and one more, and one question for the gateway for each
second and one more.
-/

namespace DpdkTcp

open Pace

/-- A node, and when it handed its driver announcements and questions. -/
structure NodeLog where
  node : Node
  announced : List ℕ
  asked : List ℕ

namespace NodeLog

/-- The times are those at which there is a frame for the driver, whether or not it is taken. -/
def step (log : NodeLog) (op : NodeOp) : NodeLog :=
  { node := (log.node.step op).1
    announced :=
      match op with
      | .announce nowNs _ =>
          if (log.node.maybeEmitGratuitousArp nowNs true).2.isEmpty then log.announced
          else log.announced ++ [nowNs]
      | _ => log.announced
    asked :=
      match op with
      | .probe nowNs _ =>
          if (log.node.maybeProbeGatewayMac nowNs true).2.isEmpty then log.asked
          else log.asked ++ [nowNs]
      | _ => log.asked }

end NodeLog

namespace Node

variable {node : Node}

/-- What paces a node. -/
structure SamePace (before after : Node) : Prop where
  interval : after.garpIntervalSec = before.garpIntervalSec
  announced : after.lastGarpNs = before.lastGarpNs
  asked : after.lastGwArpReqNs = before.lastGwArpReqNs

theorem rxFrame_samePace (chain : RxChain) (olFlags : BitVec 64) (env : InputEnv)
    (accepted : Bool) : SamePace node (node.rxFrame chain olFlags env accepted).1 := by
  rcases node.rxFrame_cases chain olFlags env accepted with same | ⟨_, same⟩ | ⟨_, same⟩ <;> rw [same]
  · exact ⟨rfl, rfl, rfl⟩
  · unfold handleArp
    split
    · exact ⟨rfl, rfl, rfl⟩
    · split <;> exact ⟨rfl, rfl, rfl⟩
  · unfold handleIpv4
    split <;> exact ⟨rfl, rfl, rfl⟩

/-- An announcement is made when its interval has passed, and its time is taken. -/
theorem announce_cases (nowNs : ℕ) (accepted : Bool) :
    (node.maybeEmitGratuitousArp nowNs accepted).1 = node ∧
        (node.maybeEmitGratuitousArp nowNs true).2 = [] ∨
      node.lastGarpNs + node.garpIntervalSec * 1000000000 ≤ nowNs ∧
        (node.maybeEmitGratuitousArp nowNs accepted).1 = { node with lastGarpNs := nowNs } ∧
        (node.maybeEmitGratuitousArp nowNs true).2 ≠ [] := by
  unfold maybeEmitGratuitousArp buildGratuitousArp
  simp only [txFrame_eq, if_true]
  split
  · exact .inl ⟨rfl, rfl⟩
  · rename_i wanted
    split
    · exact .inl ⟨rfl, rfl⟩
    · rename_i due
      have positive : 0 < node.garpIntervalSec := Nat.pos_of_ne_zero fun zero => wanted (.inl zero)
      exact .inr ⟨by omega, rfl, List.cons_ne_nil _ _⟩

theorem probe_cases (nowNs : ℕ) (accepted : Bool) :
    (node.maybeProbeGatewayMac nowNs accepted).1 = node ∧
        (node.maybeProbeGatewayMac nowNs true).2 = [] ∨
      node.lastGwArpReqNs + PROBE_INTERVAL_NS ≤ nowNs ∧
        (node.maybeProbeGatewayMac nowNs accepted).1 = { node with lastGwArpReqNs := nowNs } ∧
        (node.maybeProbeGatewayMac nowNs true).2 ≠ [] := by
  unfold maybeProbeGatewayMac buildArpRequest
  simp only [txFrame_eq, if_true]
  split
  · exact .inl ⟨rfl, rfl⟩
  · split
    · exact .inl ⟨rfl, rfl⟩
    · rename_i due
      have interval : PROBE_INTERVAL_NS = 1000000000 := rfl
      exact .inr ⟨by omega, rfl, List.cons_ne_nil _ _⟩

end Node

namespace NodeLog

variable {node : Node} {log : NodeLog}

/-- The times so far are paced, and the node knows the last of them. -/
structure Paced (node : Node) (log : NodeLog) : Prop where
  interval : log.node.garpIntervalSec = node.garpIntervalSec
  announced : Pace.Paced (node.garpIntervalSec * 1000000000) log.announced log.node.lastGarpNs
  asked : Pace.Paced PROBE_INTERVAL_NS log.asked log.node.lastGwArpReqNs

theorem Paced.step (paced : log.Paced node) (op : NodeOp) : (log.step op).Paced node := by
  cases op with
  | frame chain olFlags env accepted =>
      have same := log.node.rxFrame_samePace chain olFlags env accepted
      refine ⟨same.interval.trans paced.interval, ?_, ?_⟩
      · show Pace.Paced _ log.announced (log.node.rxFrame chain olFlags env accepted).1.lastGarpNs
        rw [same.announced]
        exact paced.announced
      · show Pace.Paced _ log.asked (log.node.rxFrame chain olFlags env accepted).1.lastGwArpReqNs
        rw [same.asked]
        exact paced.asked
  | announce nowNs accepted =>
      rcases log.node.announce_cases nowNs accepted with ⟨same, silent⟩ | ⟨due, moved, spoken⟩
      · have kept : log.step (.announce nowNs accepted) = log := by
          dsimp only [NodeLog.step, Node.step]
          rw [same, silent]
          rfl
        rw [kept]
        exact paced
      · have more : log.step (.announce nowNs accepted) =
            { log with
              node := { log.node with lastGarpNs := nowNs }
              announced := log.announced ++ [nowNs] } := by
          dsimp only [NodeLog.step, Node.step]
          rw [moved, if_neg (by rw [List.isEmpty_iff]; exact spoken)]
        rw [paced.interval] at due
        rw [more]
        exact ⟨paced.interval, paced.announced.next due, paced.asked⟩
  | probe nowNs accepted =>
      rcases log.node.probe_cases nowNs accepted with ⟨same, silent⟩ | ⟨due, moved, spoken⟩
      · have kept : log.step (.probe nowNs accepted) = log := by
          dsimp only [NodeLog.step, Node.step]
          rw [same, silent]
          rfl
        rw [kept]
        exact paced
      · have more : log.step (.probe nowNs accepted) =
            { log with
              node := { log.node with lastGwArpReqNs := nowNs }
              asked := log.asked ++ [nowNs] } := by
          dsimp only [NodeLog.step, Node.step]
          rw [moved, if_neg (by rw [List.isEmpty_iff]; exact spoken)]
        rw [more]
        exact ⟨paced.interval, paced.announced, paced.asked.next due⟩
  | station op => exact ⟨paced.interval, paced.announced, paced.asked⟩

theorem paced_of_reaches (run : Run.Reaches NodeLog.step (fun _ _ => True) ⟨node, [], []⟩ log) :
    log.Paced node :=
  run.invariant ⟨rfl, paced_nil _ _, paced_nil _ _⟩ fun _ op paced _ => paced.step op

/-- Whatever a node receives and by whatever clock its polls end, a span of time holds at most one
announcement and one question more than it holds intervals between two of them. -/
theorem neighbour_rate_bounded
    (run : Run.Reaches NodeLog.step (fun _ _ => True) ⟨node, [], []⟩ log) (startNs spanNs : ℕ) :
    ((within log.announced startNs spanNs).length - 1) * (node.garpIntervalSec * 1000000000) ≤
        spanNs ∧
      ((within log.asked startNs spanNs).length - 1) * PROBE_INTERVAL_NS ≤ spanNs := by
  have paced := paced_of_reaches run
  exact ⟨length_within_le paced.announced.apart startNs spanNs,
    length_within_le paced.asked.apart startNs spanNs⟩

/-- Polls end every half second; the driver takes nothing. -/
def refusedPolls : List NodeOp :=
  (List.range 8).flatMap fun poll =>
    [.announce (poll * 500000000) false, .probe (poll * 500000000) false]

theorem neighbour_rate_bounded_refusedPolls :
    let log := refusedPolls.foldl NodeLog.step ⟨{ seekingNode with garpIntervalSec := 2 }, [], []⟩
    ((within log.announced 0 3000000000).length - 1) * (2 * 1000000000) ≤ 3000000000 ∧
      ((within log.asked 0 3000000000).length - 1) * PROBE_INTERVAL_NS ≤ 3000000000 :=
  neighbour_rate_bounded (Run.Reaches.foldl refusedPolls _) 0 3000000000

example :
    (refusedPolls.foldl NodeLog.step ⟨{ seekingNode with garpIntervalSec := 2 }, [], []⟩).asked =
      [1000000000, 2000000000, 3000000000] := by decide +kernel

end NodeLog

end DpdkTcp
