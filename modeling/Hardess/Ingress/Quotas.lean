import Hardess.Ingress.Registrations
import Hardess.Routing.PeerCounts

/-!
# Connection quotas

The quota of a peer is checked after the provider answered, in the same turn in which the connection
is registered; the quota of the node is checked when a connection opens.

* `Quota`: both quotas are kept, and the ids and the peers of the locator agree;
* `quota_step`: every event keeps them;
* **`quotas_hold`**: in every state of a run the connections of the node and of each peer are within
  their limits.
-/

namespace Hardess

namespace WebSocketRuntime

variable {st : WebSocketRuntime} {e : Event}

/-- The limits of a node and what is kept of its tables. -/
structure Quota (st : WebSocketRuntime) : Prop where
  kept : st.Kept
  indexed : st.peerLocator.Indexed
  peers : ∀ limit, st.deps.maxConnectionsPerPeer = some limit →
    ∀ p, st.peerLocator.countConnectionsForPeer p ≤ limit
  total : ∀ limit, st.deps.maxConnections = some limit → st.connections.length ≤ limit

/-- A connection that is not one too many leaves its peer within the limit. -/
theorem count_register_of_quota (hi : st.peerLocator.Indexed) {connId peerId : JsString} {limit : ℕ}
    (hl : st.deps.maxConnectionsPerPeer = some limit)
    (hq : st.peerQuotaExceeded connId peerId = false)
    (hp : ∀ p, st.peerLocator.countConnectionsForPeer p ≤ limit) (p : JsString) :
    (st.peerLocator.register (st.ownRef connId peerId)).countConnectionsForPeer p ≤ limit := by
  have hle := InMemoryPeerLocator.count_register_le hi (st.ownRef connId peerId) p
  unfold peerQuotaExceeded at hq
  rw [hl] at hq
  have hroom := not_lt.1 (of_decide_eq_false hq)
  split_ifs at hle with heq
  · subst heq
    exact hle.trans hroom
  · exact hle.trans (hp p)

/-- A connection only opens when there is room for it. -/
theorem length_openSocket {limit : ℕ} (hl : st.deps.maxConnections = some limit)
    (hc : st.connections.length ≤ limit) (connId : JsString) :
    (st.openSocket connId).connections.length ≤ limit := by
  unfold WebSocketRuntime.openSocket
  split_ifs with h1 h2 h3 hfull
  · exact hc
  · exact hc
  · exact hc
  · exact hc
  · rw [hl, Option.any_some, decide_eq_true_eq, not_le] at hfull
    rw [List.length_append]
    exact hfull

/-- Every event keeps the quotas: the check of a peer and its registration are one turn. -/
theorem quota_step (h : st.Quota) (e : Event) : (st.step e).Quota := by
  have hdeps := deps_step st e
  obtain ⟨hlocator, hconns⟩ := tables_step st e
  have hpeers : (st.step e).peerLocator.Indexed ∧
      ∀ limit, st.deps.maxConnectionsPerPeer = some limit →
        ∀ p, (st.step e).peerLocator.countConnectionsForPeer p ≤ limit := by
    rcases hlocator with ⟨connIds, heq⟩ | ⟨connId, peerId, hq, heq⟩ <;> rw [heq]
    · obtain ⟨hi, hle⟩ := InMemoryPeerLocator.unregister_all h.indexed h.kept.locator connIds
      exact ⟨hi, fun limit hl p => (hle p).trans (h.peers limit hl p)⟩
    · exact ⟨h.indexed.register h.kept.locator _, fun limit hl =>
        count_register_of_quota h.indexed hl hq (h.peers limit hl)⟩
  refine ⟨kept_step h.kept e, hpeers.1, fun limit hl => hpeers.2 limit (hdeps ▸ hl),
    fun limit hl => ?_⟩
  have hroom := h.total limit (hdeps ▸ hl)
  rcases hconns with hsub | ⟨connId, rfl, -, -⟩
  · exact hsub.length_le.trans hroom
  · exact @length_openSocket st.cleared limit (hdeps ▸ hl) hroom connId

theorem quota_create (deps : WebSocketRuntimeDeps) : (create deps).Quota :=
  ⟨kept_create deps, InMemoryPeerLocator.indexed_empty, fun _ _ _ => Nat.zero_le _,
    fun _ _ => Nat.zero_le _⟩

/-- **In every state of a run no peer has more connections than its limit, by its count or by the
connection ids, and no more connections are open than the node may have.** -/
theorem quotas_hold (deps : WebSocketRuntimeDeps) (es : List Event) :
    (∀ limit, deps.maxConnectionsPerPeer = some limit → ∀ p,
      (Machine.run step (create deps) es).peerLocator.countConnectionsForPeer p ≤ limit ∧
      ((Machine.run step (create deps) es).peerLocator.connsById.entries.filter
        fun e => e.2.peerId = p).length ≤ limit) ∧
    ∀ limit, deps.maxConnections = some limit →
      (Machine.run step (create deps) es).connections.length ≤ limit := by
  have hdeps : (Machine.run step (create deps) es).deps = deps :=
    @Machine.run_invariant _ _ step (fun s => s.deps = deps) _ rfl
      (fun s e h => (deps_step s e).trans h) es
  have h := Machine.run_invariant (quota_create deps) (fun _ e h => quota_step h e) es
  refine ⟨fun limit hl p => ?_, fun limit hl => h.total limit (hdeps.symm ▸ hl)⟩
  have hcount := h.peers limit (hdeps.symm ▸ hl) p
  exact ⟨hcount, (InMemoryPeerLocator.registered_le_count h.indexed p).trans hcount⟩

/-- Two connections authenticate as Bob. -/
def bobTwice : List Event :=
  [.openSocket (js "b"), .openSocket (js "c")] ++ joins (js "b") (js "bob") 0 ++
    joins (js "c") (js "bob") 1

/-- One of them is refused. -/
theorem quotas_hold_bob : (Machine.run step
    (create { nodeId := js "n", maxConnections := some 2, maxConnectionsPerPeer := some 1 })
    bobTwice).peerLocator.countConnectionsForPeer (js "bob") ≤ 1 :=
  ((quotas_hold { nodeId := js "n", maxConnections := some 2, maxConnectionsPerPeer := some 1 }
    bobTwice).1 1 rfl (js "bob")).1

end WebSocketRuntime

end Hardess
