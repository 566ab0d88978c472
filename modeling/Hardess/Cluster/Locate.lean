import Hardess.Cluster.Codec
import Hardess.Lib.JsMap

/-!
# Questions for connections

`locate` of `src/runtime/cluster/network.ts` and the endpoint `/__cluster/locate` of
`src/runtime/app.ts`: what one node asks another about peers, and what it reads in the response.

* a group that is `undefined` is dropped when the body is written, and is `undefined` again when it
  is read: `parse_locateBody`;
* a response only brings connections that were found: `mem_parse_locateResponse`, `mem_mergeResponse`.

The spaces that `json` puts into a response are left out.
-/

namespace Hardess

/-! ### The question -/

/-- The body of a question. -/
def locateBody (peerIds : List JsString) (groupId : Option JsString) : Json :=
  .obj ([(js "peerIds", .arr (peerIds.map .str))] ++ optMember (js "groupId") (groupId.map .str))

/-- `clusterLocateRequestSchema`. -/
def clusterLocateRequestSchema : Zod.Schema (List JsString × Option JsString) :=
  Zod.object fun f => do
    let peerIds ← (Zod.array Zod.nonempty (f (js "peerIds"))).filter fun peerIds => peerIds ≠ []
    let groupId ← Zod.optional Zod.nonempty (f (js "groupId"))
    some (peerIds, groupId)

/-- What the endpoint reads in the text of a body. -/
def parseClusterLocateRequest (body : JsString) : Option (List JsString × Option JsString) :=
  (Json.parse body).bind fun value => clusterLocateRequestSchema (some value)

theorem wf_locateBody (peerIds : List JsString) (groupId : Option JsString) :
    (locateBody peerIds groupId).WF := by
  refine wf_obj [js "peerIds", js "groupId"] ?_ (by simp) ?_
  · rw [List.map_append]
    exact (List.Sublist.refl _).append (keys_optMember_sublist _ _)
  · simp only [List.forall_mem_append, List.forall_mem_cons]
    exact ⟨⟨@wf_arr_map _ Json.str (fun _ => trivial) _, List.forall_mem_nil _⟩,
      wf_optMember_map fun _ => trivial⟩

theorem stable_clusterLocateRequestSchema : Zod.Stable clusterLocateRequestSchema :=
  Zod.stable_object fun f => by
    simp only [Zod.stable_nonempty.array _, Zod.stable_nonempty.optional _]

/-- **The endpoint reads the peers and the group that were asked for, if they have names.** -/
theorem parse_locateBody {peerIds : List JsString} {groupId : Option JsString}
    {payload : List JsString × Option JsString} :
    parseClusterLocateRequest (locateBody peerIds groupId).stringify = some payload ↔
      ((∀ p ∈ peerIds, p ≠ []) ∧ peerIds ≠ [] ∧ groupId ≠ some []) ∧
        payload = (peerIds, groupId) := by
  unfold parseClusterLocateRequest
  rw [Json.parse_stringify (wf_locateBody peerIds groupId), Option.bind_some]
  refine Iff.trans (Eq.to_iff (congrArg (· = some payload)
    (stable_clusterLocateRequestSchema (some _)))) ?_
  simp only [clusterLocateRequestSchema, locateBody, Zod.object, Json.lookup_append,
    Json.lookup_cons, Json.lookup_nil, lookup_optMember, js_inj, String.reduceEq, if_true, if_false,
    Option.bind_eq_bind, Option.bind_eq_some_iff, Option.some_or, Option.none_or, ids_eq_some,
    Option.filter_eq_some_iff, optional_str_eq_some, Option.some.injEq, decide_eq_true_eq]
  constructor
  · rintro ⟨_, ⟨⟨hnamed, rfl⟩, hne⟩, _, ⟨hgroup, rfl⟩, rfl⟩
    exact ⟨⟨hnamed, hne, hgroup⟩, rfl⟩
  · rintro ⟨⟨hnamed, hne, hgroup⟩, rfl⟩
    exact ⟨_, ⟨⟨hnamed, rfl⟩, hne⟩, _, ⟨hgroup, rfl⟩, rfl⟩

/-! ### The response -/

/-- The body of a response. -/
def locateResponse (located : JsMap JsString (List ConnRef)) : Json :=
  .obj [(js "ok", .bool true),
    (js "peers", .obj (located.entries.map fun found =>
      (found.1, .arr (found.2.map ConnRef.toJson))))]

/-- `clusterLocateResponseSchema`. -/
def clusterLocateResponseSchema : Zod.Schema (List (JsString × List ConnRef)) :=
  Zod.object fun f => Zod.record (Zod.array connRefSchema) (f (js "peers"))

/-- What `locate` reads in the text of a response. -/
def parseClusterLocateResponse (body : JsString) : Option (List (JsString × List ConnRef)) :=
  (Json.parse body).bind fun value => clusterLocateResponseSchema (some value)

/-- The loop of `locate` over the peers, for one response. The member `__proto__` is inherited and
no list, and reading it ends the loop. -/
def mergeResponse (peers : List (JsString × List ConnRef)) :
    List JsString → JsMap JsString (List ConnRef) → JsMap JsString (List ConnRef)
  | [], merged => merged
  | peerId :: peerIds, merged =>
    if peerId = js "__proto__" then merged
    else
      mergeResponse peers peerIds (merged.set peerId
        ((merged.get peerId).getD [] ++ (peers.lookup peerId).getD []))

theorem wf_locateResponse (located : JsMap JsString (List ConnRef)) :
    (locateResponse located).WF := by
  refine wf_obj [js "ok", js "peers"] (List.Sublist.refl _) (by simp) ?_
  simp only [List.forall_mem_cons]
  refine ⟨trivial, ⟨?_, (Json.WF.members_iff _).2 fun m hm => ?_⟩, List.forall_mem_nil _⟩
  · rw [List.map_map]
    exact located.nodup
  · obtain ⟨found, -, rfl⟩ := List.mem_map.1 hm
    exact wf_arr_map ConnRef.wf_toJson _

theorem stable_clusterLocateResponseSchema : Zod.Stable clusterLocateResponseSchema :=
  Zod.stable_object fun _ => ClusterSocketMessage.stable_connRefSchema.array.record _

/-- A connection in a response was found there, and comes without its group. -/
theorem mem_parse_locateResponse {located : JsMap JsString (List ConnRef)}
    {peers : List (JsString × List ConnRef)} {peerId : JsString} {conns : List ConnRef}
    {conn : ConnRef}
    (h : parseClusterLocateResponse (locateResponse located).stringify = some peers)
    (hp : (peerId, conns) ∈ peers) (hc : conn ∈ conns) :
    ∃ conns' conn', (peerId, conns') ∈ located.entries ∧ conn' ∈ conns' ∧
      conn = conn'.withoutGroup := by
  unfold parseClusterLocateResponse at h
  rw [Json.parse_stringify (wf_locateResponse located), Option.bind_some] at h
  have hread := (stable_clusterLocateResponseSchema (some _)).symm.trans h
  simp only [clusterLocateResponseSchema, locateResponse, Zod.object, Json.lookup_cons, js_inj,
    String.reduceEq, if_true, if_false] at hread
  obtain ⟨v, hv, hconns⟩ := Zod.mem_record hread hp
  obtain ⟨found, hfound, heq⟩ := List.mem_map.1 hv
  cases heq
  obtain ⟨-, rfl⟩ := (Zod.array_map_eq_some fun _ _ => connRefSchema_toJson).1 hconns
  obtain ⟨conn', hconn', rfl⟩ := List.mem_map.1 hc
  exact ⟨found.2, conn', hfound, hconn', rfl⟩

/-- A connection that is merged was there, or comes from the response. -/
theorem mem_mergeResponse {peers : List (JsString × List ConnRef)} {peerIds : List JsString}
    {merged : JsMap JsString (List ConnRef)} {peerId : JsString} {conn : ConnRef}
    (h : conn ∈ ((mergeResponse peers peerIds merged).get peerId).getD []) :
    conn ∈ (merged.get peerId).getD [] ∨ ∃ conns, (peerId, conns) ∈ peers ∧ conn ∈ conns := by
  induction peerIds generalizing merged with
  | nil => exact .inl h
  | cons p peerIds ih =>
    rw [mergeResponse] at h
    split_ifs at h
    · exact .inl h
    · refine (ih h).elim (fun hmerged => ?_) .inr
      rw [JsMap.get_set] at hmerged
      split_ifs at hmerged with heq
      · subst heq
        -- what is appended is in the response under the same id
        refine (List.mem_append.1 hmerged).imp_right fun hadded => ?_
        cases hlook : peers.lookup peerId with
        | none =>
          rw [hlook] at hadded
          cases hadded
        | some conns =>
          rw [hlook] at hadded
          obtain ⟨before, after, rfl, -⟩ := List.lookup_eq_some_iff.1 hlook
          exact ⟨conns, by simp, hadded⟩
      · exact .inl hmerged

end Hardess
