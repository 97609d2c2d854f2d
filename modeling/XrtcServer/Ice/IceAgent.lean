import XrtcServer.Ice.State
import XrtcServer.Lib.Census

/-!
# The state of the agent

`IceAgent::_update_state` (`ice/ice_agent.cpp`) sums up the states of all channels in one. The code
counts the channels in each state; here the sums of counts become conditions on the members of the
list.
-/

namespace XrtcServer

open Census

/-- The state `IceAgent::_update_state` computes from those of the channels. -/
def IceAgent.computeState (states : List IceTransportState) : IceTransportState :=
  let totalIceNew := states.count .new
  let totalIceChecking := states.count .checking
  let totalIceConnected := states.count .connected
  let totalIceCompleted := states.count .completed
  let totalIceFailed := states.count .failed
  let totalIceDisconnected := states.count .disconnected
  let totalIceClosed := states.count .closed
  let totalIce := states.length
  if totalIceFailed > 0 then .failed
  else if totalIceDisconnected > 0 then .disconnected
  else if totalIceNew + totalIceClosed = totalIce then .new
  else if totalIceNew + totalIceChecking > 0 then .checking
  else if totalIceCompleted + totalIceClosed = totalIce then .completed
  else if totalIceConnected + totalIceCompleted + totalIceClosed = totalIce then .connected
  else .new

namespace IceAgent

variable {states : List IceTransportState}

theorem computeState_eq_ite (states : List IceTransportState) :
    computeState states =
      if .failed ∈ states then .failed
      else if .disconnected ∈ states then .disconnected
      else if ∀ x ∈ states, x = .new ∨ x = .closed then .new
      else if .new ∈ states ∨ .checking ∈ states then .checking
      else if ∀ x ∈ states, x = .completed ∨ x = .closed then .completed
      else .connected := by
  have hnew : states.count .new + states.count .closed = states.length ↔
      ∀ x ∈ states, x = .new ∨ x = .closed := by
    simpa using sum_map_count_eq_length [.new, .closed] states (by decide)
  have hcompleted : states.count .completed + states.count .closed = states.length ↔
      ∀ x ∈ states, x = .completed ∨ x = .closed := by
    simpa using sum_map_count_eq_length [.completed, .closed] states (by decide)
  have hconnected : states.count .connected + states.count .completed + states.count .closed =
      states.length ↔ ∀ x ∈ states, x = .connected ∨ x = .completed ∨ x = .closed := by
    simpa [Nat.add_assoc] using
      sum_map_count_eq_length [.connected, .completed, .closed] states (by decide)
  rw [computeState]
  simp only [hnew, hcompleted, hconnected, Nat.add_pos_iff_pos_or_pos, gt_iff_lt,
    List.count_pos_iff]
  split_ifs with hfailed hdisconnected _ hchecking _ hrest
  all_goals try rfl
  -- the six sums cover every list, so the state is never the one it starts from
  refine absurd (fun x hx ↦ ?_) hrest
  cases x with
  | connected => exact .inl rfl
  | completed => exact .inr (.inl rfl)
  | closed => exact .inr (.inr rfl)
  | new => exact absurd (.inl hx) hchecking
  | checking => exact absurd (.inr hx) hchecking
  | failed => exact absurd hx hfailed
  | disconnected => exact absurd hx hdisconnected

end IceAgent

end XrtcServer
