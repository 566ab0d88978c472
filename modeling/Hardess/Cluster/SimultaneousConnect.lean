import Hardess.Cluster.Crossing

/-!
# Simultaneous connect

What every run of two nodes that dial each other keeps.

* `Orders`: the order in which the two nodes hear the handshake frames;
* `Link`: one socket, its two wires, and what the two nodes have heard;
* `Link.hears_hello`, `Link.hears_ack`, `Link.server_closes`, `Link.client_closes`: the moves;
* `linked_iff_ackFirst`: once nothing is in flight there is a usable link exactly when one of the
  nodes heard the `helloAck` on its own socket before the `hello` of the other.
-/

namespace Hardess

namespace Wire

variable {w : Wire} {item : WireItem}

theorem push_of_ended (h : w.ended = true) (item : WireItem) : w.push item = w := if_pos h

theorem push_of_open (h : w.ended = false) (item : WireItem) :
    w.push item = { items := w.items ++ [item], ended := item = .close } :=
  if_neg (by simp [h])

@[simp] theorem ended_push_close : (w.push .close).ended = true := by
  unfold push
  split_ifs with h
  · exact h
  · rfl

@[simp] theorem ended_pop : w.pop.ended = w.ended := rfl

end Wire

namespace Crossing

/-! ### What the nodes have heard -/

/-- Each node hears each frame once; it hears a `helloAck` after the other node heard its `hello`,
and not both of them hear the `helloAck` first. -/
structure Orders (mine theirs : List Handshake) : Prop where
  nodup : mine.Nodup
  nodup' : theirs.Nodup
  caused : .ack ∈ mine → .hello ∈ theirs
  caused' : .ack ∈ theirs → .hello ∈ mine
  first : mine.head? = some .ack → theirs.head? = some .hello
  first' : theirs.head? = some .ack → mine.head? = some .hello

variable {mine theirs : List Handshake}

theorem Orders.symm (h : Orders mine theirs) : Orders theirs mine :=
  ⟨h.nodup', h.nodup, h.caused', h.caused, h.first', h.first⟩

/-- The lists without a repetition. -/
theorem heard_cases {heard : List Handshake} (h : heard.Nodup) :
    heard = [] ∨ heard = [.hello] ∨ heard = [.ack] ∨ heard = [.hello, .ack] ∨
      heard = [.ack, .hello] := by
  match heard with
  | [] => exact .inl rfl
  | [.hello] => exact .inr (.inl rfl)
  | [.ack] => exact .inr (.inr (.inl rfl))
  | [.hello, .ack] => exact .inr (.inr (.inr (.inl rfl)))
  | [.ack, .hello] => exact .inr (.inr (.inr (.inr rfl)))
  | .hello :: .hello :: _ => simp at h
  | .ack :: .ack :: _ => simp at h
  | .hello :: .ack :: x :: _ => cases x <;> simp at h
  | .ack :: .hello :: x :: _ => cases x <;> simp at h

theorem heard_of_no_hello {heard : List Handshake} (h : heard.Nodup) (hn : .hello ∉ heard) :
    heard = [] ∨ heard = [.ack] := by
  rcases heard_cases h with rfl | rfl | rfl | rfl | rfl <;> simp at hn ⊢

theorem heard_of_no_ack {heard : List Handshake} (h : heard.Nodup) (hn : .ack ∉ heard) :
    heard = [] ∨ heard = [.hello] := by
  rcases heard_cases h with rfl | rfl | rfl | rfl | rfl <;> simp at hn ⊢

/-- A node hears the `hello` of the other one. -/
theorem Orders.hello (h : Orders mine theirs) (hn : .hello ∉ mine) :
    Orders (mine ++ [.hello]) theirs := by
  rcases heard_of_no_hello h.nodup hn with rfl | rfl
  · refine ⟨by simp, h.nodup', by simp, by simp, by simp, fun hf => ?_⟩
    exact absurd (h.caused' (List.mem_of_mem_head? hf)) hn
  · exact ⟨by simp, h.nodup', fun _ => h.caused (by simp), by simp, fun _ => h.first rfl,
      fun hf => by rw [h.first rfl] at hf; cases hf⟩

/-- A node hears the `helloAck` of the other one, which had heard its `hello`. -/
theorem Orders.ack (h : Orders mine theirs) (hn : .ack ∉ mine) (ht : .hello ∈ theirs) :
    Orders (mine ++ [.ack]) theirs := by
  rcases heard_of_no_ack h.nodup hn with rfl | rfl
  · have hnone : .ack ∉ theirs := fun ha => by simpa using h.caused' ha
    rcases heard_of_no_ack h.nodup' hnone with rfl | rfl
    · simp at ht
    · exact ⟨by simp, by simp, by simp, by simp, by simp, by simp⟩
  · exact ⟨by simp, h.nodup', fun _ => ht, by simp, by simp, fun _ => by simp⟩

/-! ### One socket -/

/-- The socket that `d` dialled: the states of its two ends, its two wires, and what its node and the
other one have heard. -/
structure Link (p : ClusterPair) (d : Side) (out inn : ReadyState) (toServer toClient : Wire)
    (mine theirs : List Handshake) : Prop where
  idle : out = .connecting →
    inn = .connecting ∧ toServer = {} ∧ toClient = {} ∧ .hello ∉ theirs
  up : out ≠ .connecting → inn ≠ .connecting
  sent : out ≠ .connecting → toServer.items =
    (if .hello ∈ theirs then [] else [.frame (hello p d).toJson.stringify]) ++
      if toServer.ended = true ∧ inn ≠ .closed then [.close] else []
  answered : toClient.items =
    (if .hello ∈ theirs ∧ .ack ∉ mine then [.frame (helloAck p d.other).toJson.stringify]
      else []) ++
      if toClient.ended = true ∧ out ≠ .closed then [.close] else []
  endedServer : toServer.ended = true ↔ out = .closing ∨ out = .closed
  endedClient : toClient.ended = true ↔ inn = .closing ∨ inn = .closed
  gone : out = .closed → toClient.ended = true
  gone' : inn = .closed → toServer.ended = true
  acked : toServer.ended = true → .ack ∈ mine
  closes : toServer.ended = true ∨ toClient.ended = true ↔
    mine = [.ack, .hello] ∨ theirs = [.hello, .ack]

variable {p : ClusterPair} {d : Side} {out inn : ReadyState} {toServer toClient : Wire}

namespace Link

theorem start (p : ClusterPair) (d : Side) : Link p d .connecting .connecting {} {} [] [] where
  idle _ := ⟨rfl, rfl, rfl, by simp⟩
  up h := absurd rfl h
  sent h := absurd rfl h
  answered := by simp
  endedServer := by simp
  endedClient := by simp
  gone h := by cases h
  gone' h := by cases h
  acked h := by cases h
  closes := by simp

/-- The socket opens, and its node says hello. -/
theorem opened (h : Link p d .connecting inn toServer toClient mine theirs) :
    Link p d .open .open (toServer.push (.frame (hello p d).toJson.stringify)) toClient mine
      theirs := by
  obtain ⟨-, rfl, rfl, hnone⟩ := h.idle rfl
  have hclosed := h.closes
  exact {
    idle := fun hc => by cases hc
    up := fun _ hc => by cases hc
    sent := fun _ => by simp [Wire.push, hnone]
    answered := by simp [hnone]
    endedServer := by simp [Wire.push]
    endedClient := by simp
    gone := fun hc => by cases hc
    gone' := fun hc => by cases hc
    acked := fun hc => by simp [Wire.push] at hc
    closes := by simpa [Wire.push] using hclosed }

section moves

variable (h : Link p d out inn toServer toClient mine theirs)
include h

theorem connected_of_toServer {item : WireItem} {rest : List WireItem}
    (hi : toServer.items = item :: rest) : out ≠ .connecting := by
  intro hc
  rw [(h.idle hc).2.1] at hi
  cases hi

theorem connected_of_toClient {item : WireItem} {rest : List WireItem}
    (hi : toClient.items = item :: rest) : out ≠ .connecting := by
  intro hc
  rw [(h.idle hc).2.2.1] at hi
  cases hi

/-- No end is closed before its node and the other one have heard enough. -/
theorem open_of_not_closes (hc : out ≠ .connecting)
    (hn : ¬(mine = [.ack, .hello] ∨ theirs = [.hello, .ack])) :
    out = .open ∧ inn = .open ∧ toServer.ended = false ∧ toClient.ended = false := by
  have hnone := mt h.closes.1 hn
  rw [not_or] at hnone
  have hi := h.up hc
  have hs := mt h.endedServer.2 hnone.1
  have ht := mt h.endedClient.2 hnone.2
  refine ⟨?_, ?_, by simpa using hnone.1, by simpa using hnone.2⟩
  · cases out with
    | connecting => exact absurd rfl hc
    | «open» => rfl
    | closing => exact absurd (.inl rfl) hs
    | closed => exact absurd (.inr rfl) hs
  · cases inn with
    | connecting => exact absurd rfl hi
    | «open» => rfl
    | closing => exact absurd (.inl rfl) ht
    | closed => exact absurd (.inr rfl) ht

/-- A frame in the direction of the server is the `hello`, which it has not heard. -/
theorem frame_toServer {raw : JsString} {rest : List WireItem}
    (hi : toServer.items = .frame raw :: rest) :
    raw = (hello p d).toJson.stringify ∧ .hello ∉ theirs ∧
      rest = if toServer.ended = true ∧ inn ≠ .closed then [.close] else [] := by
  have hsent := h.sent (h.connected_of_toServer hi)
  rw [hi] at hsent
  by_cases hh : .hello ∈ theirs
  · rw [if_pos hh, List.nil_append] at hsent
    split_ifs at hsent
    cases hsent
  · rw [if_neg hh, List.singleton_append] at hsent
    obtain ⟨hraw, hrest⟩ := List.cons.inj hsent
    exact ⟨WireItem.frame.inj hraw, hh, hrest⟩

/-- A frame in the direction of the client is the `helloAck`, which it has not heard. -/
theorem frame_toClient {raw : JsString} {rest : List WireItem}
    (hi : toClient.items = .frame raw :: rest) :
    raw = (helloAck p d.other).toJson.stringify ∧ .hello ∈ theirs ∧ .ack ∉ mine ∧
      rest = if toClient.ended = true ∧ out ≠ .closed then [.close] else [] := by
  have hanswered := h.answered
  rw [hi] at hanswered
  by_cases hh : .hello ∈ theirs ∧ .ack ∉ mine
  · rw [if_pos hh, List.singleton_append] at hanswered
    obtain ⟨hraw, hrest⟩ := List.cons.inj hanswered
    exact ⟨WireItem.frame.inj hraw, hh.1, hh.2, hrest⟩
  · rw [if_neg hh, List.nil_append] at hanswered
    split_ifs at hanswered
    cases hanswered

/-- The server hears the `hello` and answers it. -/
theorem server_hears (ho : Orders mine theirs) {raw : JsString} {rest : List WireItem}
    (hi : toServer.items = .frame raw :: rest) :
    inn = .open ∧ Link p d out inn toServer.pop
      (toClient.push (.frame (helloAck p d.other).toJson.stringify)) mine (theirs ++ [.hello]) := by
  obtain ⟨-, hnone, hrest⟩ := h.frame_toServer hi
  have hc := h.connected_of_toServer hi
  -- the `helloAck` cannot have been heard before the `hello` arrives here
  have hack : .ack ∉ mine := fun ha => hnone (ho.caused ha)
  have hcases := heard_of_no_hello ho.nodup' hnone
  obtain ⟨hout, hinn, hs, ht⟩ := h.open_of_not_closes hc (by
    rintro (rfl | rfl)
    · exact hack (by simp)
    · exact hnone (by simp))
  refine ⟨hinn, ?_⟩
  have hitems : toClient.items = [] := by
    rw [h.answered, if_neg fun hh => hnone hh.1, ht]
    simp
  have hpush := Wire.push_of_open ht (.frame (helloAck p d.other).toJson.stringify)
  rw [hs] at hrest
  exact {
    idle := fun hcon => absurd hcon hc
    up := h.up
    sent := fun _ => by simp [Wire.pop, hi, hrest, hs]
    answered := by simp [hpush, hitems, hack]
    endedServer := h.endedServer
    endedClient := by
      rw [hpush, ← h.endedClient, ht]
      simp
    gone := fun hcl => by rw [hout] at hcl; cases hcl
    gone' := h.gone'
    acked := h.acked
    closes := by
      have hiff := h.closes
      rw [hs, ht] at hiff
      rw [hpush, Wire.ended_pop, hs]
      rcases hcases with rfl | rfl
      · simpa using hiff
      · simpa using hiff }

/-- The client hears the `helloAck`. -/
theorem client_hears (ho : Orders mine theirs) {raw : JsString} {rest : List WireItem}
    (hi : toClient.items = .frame raw :: rest) :
    out = .open ∧ Link p d out inn toServer toClient.pop (mine ++ [.ack]) theirs := by
  obtain ⟨-, hhello, hnone, hrest⟩ := h.frame_toClient hi
  have hc := h.connected_of_toClient hi
  have hs : ¬toServer.ended = true := fun hs => hnone (h.acked hs)
  have hout : out = .open := by
    have hne := mt h.endedServer.2 hs
    cases out with
    | connecting => exact absurd rfl hc
    | «open» => rfl
    | closing => exact absurd (.inl rfl) hne
    | closed => exact absurd (.inr rfl) hne
  refine ⟨hout, ?_⟩
  exact {
    idle := fun hcon => absurd hcon hc
    up := h.up
    sent := h.sent
    answered := by simp [Wire.pop, hi, hrest]
    endedServer := h.endedServer
    endedClient := h.endedClient
    gone := h.gone
    gone' := h.gone'
    acked := fun _ => by simp
    closes := by
      rw [Wire.ended_pop, h.closes]
      rcases heard_of_no_ack ho.nodup hnone with rfl | rfl <;> simp }

/-- The client hears the `hello` on the other socket: if this one is its channel, it closes it. -/
theorem client_replaces (ho : Orders mine theirs) (hnone : .hello ∉ mine) :
    Link p d (if mine = [] then out else .closing) inn
      (if mine = [] then toServer else toServer.push .close) toClient (mine ++ [.hello]) theirs := by
  -- the client has heard nothing yet, or the `helloAck` that made this socket its channel
  rcases heard_of_no_hello ho.nodup hnone with rfl | rfl
  · have hiff := h.closes
    have hack : .ack ∉ theirs := fun ha => by simpa using ho.caused' ha
    rw [if_pos rfl, if_pos rfl]
    exact { h with
      answered := by simpa using h.answered
      acked := fun hs => absurd (h.acked hs) (by simp)
      closes := by
        rw [hiff]
        simp }
  · rw [if_neg (by simp), if_neg (by simp)]
    have hc : out ≠ .connecting := fun hc => (h.idle hc).2.2.2 (ho.caused (by simp))
    obtain ⟨hout, hinn, hs, ht⟩ := h.open_of_not_closes hc (by
      rintro (hm | rfl)
      · simp at hm
      · exact hnone (ho.caused' (by simp)))
    have hpush := Wire.push_of_open hs .close
    have hsent := h.sent hc
    have hanswered := h.answered
    rw [hs] at hsent
    rw [ht] at hanswered
    exact {
      idle := fun hcon => by cases hcon
      up := fun _ => h.up hc
      sent := fun _ => by simp [hpush, hsent, hinn]
      answered := by simp [hanswered, ht]
      endedServer := by simp
      endedClient := h.endedClient
      gone := fun hcl => by cases hcl
      gone' := fun hcl => by rw [hinn] at hcl; cases hcl
      acked := fun _ => by simp
      closes := by simp }

/-- The server hears the `helloAck` on the other socket: if this one is its channel, it closes it. -/
theorem server_replaces (ho : Orders mine theirs) (hnone : .ack ∉ theirs) :
    Link p d out (if theirs = [] ∨ inn = .closed then inn else .closing) toServer
      (if theirs = [] ∨ inn = .closed then toClient else toClient.push .close) mine
      (theirs ++ [.ack]) := by
  -- before the `helloAck` the server has heard nothing, or the `hello` only
  rcases heard_of_no_ack ho.nodup' hnone with rfl | rfl
  · rw [if_pos (.inl rfl), if_pos (.inl rfl)]
    have hiff := h.closes
    exact { h with
      idle := fun hc => by simpa using h.idle hc
      sent := by simpa using h.sent
      answered := by simpa using h.answered
      closes := by
        rw [hiff]
        simp }
  · have hc : out ≠ .connecting := fun hc => (h.idle hc).2.2.2 (by simp)
    by_cases hcl : inn = .closed
    · rw [if_pos (.inr hcl), if_pos (.inr hcl)]
      exact { h with
        idle := fun hcon => absurd hcon hc
        sent := by simpa using h.sent
        answered := by simpa using h.answered
        closes := by simp [h.gone' hcl] }
    · rw [if_neg (by simp [hcl]), if_neg (by simp [hcl])]
      have hsent := h.sent hc
      have hanswered := h.answered
      exact {
        idle := fun hcon => absurd hcon hc
        up := fun _ hcon => by cases hcon
        sent := fun _ => by simpa [hcl] using hsent
        answered := by
          cases ht : toClient.ended with
          | true =>
            rw [Wire.push_of_ended ht]
            simpa [ht] using hanswered
          | false =>
            have hout : out ≠ .closed := fun hgone => by
              rw [h.gone hgone] at ht
              cases ht
            rw [ht] at hanswered
            rw [Wire.push_of_open ht]
            simp [hanswered, hout]
        endedServer := h.endedServer
        endedClient := by simp
        gone := fun _ => by simp
        gone' := fun hgone => by cases hgone
        acked := h.acked
        closes := by simp }

/-- The close of the client arrives, and is answered. -/
theorem server_closes {rest : List WireItem} (hi : toServer.items = .close :: rest) :
    (inn = .open ∨ inn = .closing) ∧
      Link p d out .closed toServer.pop (toClient.push .close) mine theirs := by
  have hc := h.connected_of_toServer hi
  have hsent := h.sent hc
  rw [hi] at hsent
  -- the close comes behind the `hello`, which was sent first
  have hhello : .hello ∈ theirs := by
    by_contra hn
    rw [if_neg hn, List.singleton_append] at hsent
    cases (List.cons.inj hsent).1
  rw [if_pos hhello, List.nil_append] at hsent
  -- nothing is sent behind a close
  have hlast : (toServer.ended = true ∧ inn ≠ .closed) ∧ rest = [] := by
    split_ifs at hsent with hl
    exact ⟨hl, (List.cons.inj hsent).2⟩
  obtain ⟨⟨hs, hopen⟩, rfl⟩ := hlast
  refine ⟨?_, ?_⟩
  · have hi' := h.up hc
    cases inn with
    | connecting => exact absurd rfl hi'
    | «open» => exact .inl rfl
    | closing => exact .inr rfl
    | closed => exact absurd rfl hopen
  have hanswered := h.answered
  exact {
    idle := fun hcon => absurd hcon hc
    up := fun _ hcon => by cases hcon
    sent := fun _ => by simp [Wire.pop, hi, hhello]
    answered := by
      cases ht : toClient.ended with
      | true =>
        rw [Wire.push_of_ended ht]
        simpa [ht] using hanswered
      | false =>
        have hout : out ≠ .closed := fun hgone => by
          rw [h.gone hgone] at ht
          cases ht
        rw [ht] at hanswered
        rw [Wire.push_of_open ht]
        simp [hanswered, hout]
    endedServer := h.endedServer
    endedClient := by simp
    gone := fun _ => by simp
    gone' := fun _ => hs
    acked := h.acked
    closes := by
      rw [← h.closes]
      simp [hs] }

/-- The close of the server arrives, and is answered. -/
theorem client_closes (ho : Orders mine theirs) {rest : List WireItem}
    (hi : toClient.items = .close :: rest) : .ack ∈ mine ∧ out ≠ .connecting ∧ out ≠ .closed ∧
      Link p d .closed inn (toServer.push .close) toClient.pop mine theirs := by
  have hc := h.connected_of_toClient hi
  have hanswered := h.answered
  rw [hi] at hanswered
  -- the `helloAck` is before the close on the wire
  have hheard : ¬(.hello ∈ theirs ∧ .ack ∉ mine) := by
    intro hn
    rw [if_pos hn, List.singleton_append] at hanswered
    cases (List.cons.inj hanswered).1
  rw [if_neg hheard, List.nil_append] at hanswered
  -- nothing is sent behind a close
  have hlast : (toClient.ended = true ∧ out ≠ .closed) ∧ rest = [] := by
    split_ifs at hanswered with hl
    exact ⟨hl, (List.cons.inj hanswered).2⟩
  obtain ⟨⟨ht, hopen⟩, rfl⟩ := hlast
  have hack : .ack ∈ mine := by
    rcases h.closes.1 (.inr ht) with rfl | rfl
    · simp
    · by_contra hn
      exact hheard ⟨by simp, hn⟩
  have hsent := h.sent hc
  have hhello := ho.caused hack
  refine ⟨hack, hc, hopen, ?_⟩
  exact {
    idle := fun hcon => by cases hcon
    up := fun _ => h.up hc
    sent := fun _ => by
      cases hs : toServer.ended with
      | true =>
        rw [Wire.push_of_ended hs]
        simpa [hs] using hsent
      | false =>
        have hinn : inn ≠ .closed := fun hgone => by
          rw [h.gone' hgone] at hs
          cases hs
        rw [hs] at hsent
        rw [Wire.push_of_open hs]
        simp [hsent, hinn]
    answered := by simp [Wire.pop, hi, hack]
    endedServer := by simp
    endedClient := h.endedClient
    gone := fun _ => ht
    gone' := fun _ => by simp
    acked := fun _ => hack
    closes := by
      rw [← h.closes]
      simp [ht] }

end moves

end Link

/-! ### Both sockets -/

/-- The link over the socket that a node dialled, in a state. -/
def LinkAt (p : ClusterPair) (c : Crossing) (d e : Side) : Prop :=
  Link p d ((c.node d).readyState (.outbound 0)) ((c.node e).readyState (.inbound 0))
    (c.toServer d) (c.toClient d) (c.heard d) (c.heard e)

/-- What every run of the two nodes keeps. -/
structure Fits (p : ClusterPair) (c : Crossing) : Prop where
  stands : ∀ d, Stands p d (c.node d) (c.heard d)
  orders : ∀ d, Orders (c.heard d) (c.heard d.other)
  link : ∀ d, LinkAt p c d d.other

variable {c c' : Crossing} {x : Side}

theorem Fits.link' (h : Fits p c) (x : Side) : LinkAt p c x.other x := by
  have hlink := h.link x.other
  rwa [Side.other_other] at hlink

/-- One node handles an event, the other one stays. -/
theorem fits_of (h : Fits p c) (hn : c'.node x.other = c.node x.other)
    (hh : c'.heard x.other = c.heard x.other) (hs : Stands p x (c'.node x) (c'.heard x))
    (ho : Orders (c'.heard x) (c'.heard x.other)) (hl : LinkAt p c' x x.other)
    (hl' : LinkAt p c' x.other x) : Fits p c' := by
  refine ⟨fun d => ?_, fun d => ?_, fun d => ?_⟩
  · rcases Side.eq_or_eq_other x d with rfl | rfl
    · exact hs
    · rw [hn, hh]
      exact h.stands _
  · rcases Side.eq_or_eq_other x d with rfl | rfl
    · exact ho
    · rw [Side.other_other]
      exact ho.symm
  · rcases Side.eq_or_eq_other x d with rfl | rfl
    · exact hl
    · rw [Side.other_other]
      exact hl'

theorem fits_start (p : ClusterPair) : Fits p (start p) := by
  refine ⟨stands_start p, fun d => ⟨?_, ?_, ?_, ?_, ?_, ?_⟩, fun d => ?_⟩
  · exact List.nodup_nil
  · exact List.nodup_nil
  · exact fun hc => by cases hc
  · exact fun hc => by cases hc
  · exact fun hc => by cases hc
  · exact fun hc => by cases hc
  · unfold LinkAt
    rw [start_node, start_node]
    exact Link.start p d

/-- The state after a node handled an event. -/
theorem step_toServer_frame {raw : JsString} {rest : List WireItem}
    (hi : (c.toServer x.other).items = .frame raw :: rest)
    (ho : (c.node x).readyState (.inbound 0) = .open) :
    c.step (.toServer x.other) =
      { node := Function.update c.node x ((c.node x).step (.messageServerSocket 0 raw))
        toServer :=
          Function.update (Function.update c.toServer x.other (c.toServer x.other).pop) x
            ((c.toServer x).transmit (.outbound 0)
              ((c.node x).step (.messageServerSocket 0 raw)).effects)
        toClient := Function.update c.toClient x.other ((c.toClient x.other).transmit (.inbound 0)
          ((c.node x).step (.messageServerSocket 0 raw)).effects)
        heard := Function.update c.heard x (c.heard x ++ [.hello]) } := by
  unfold step
  dsimp only
  rw [hi]
  dsimp only
  rw [Side.other_other]
  unfold hear
  rw [if_pos (show _ = _ from ho)]
  unfold settle
  dsimp only
  rw [Function.update_of_ne (by simp)]

/-- A frame in the direction of a server arrives. -/
theorem fits_toServer_frame (h : Fits p c) {raw : JsString} {rest : List WireItem}
    (hi : (c.toServer x.other).items = .frame raw :: rest) :
    Fits p (c.step (.toServer x.other)) := by
  have hlink' := h.link' x
  obtain ⟨rfl, hnone, -⟩ := hlink'.frame_toServer hi
  obtain ⟨hinn, hserver⟩ := hlink'.server_hears (h.orders x).symm hi
  have hclient := (h.link x).client_replaces (h.orders x) hnone
  have hheard : c.heard x = [] ∨ c.heard x = [.ack] ∧
      (c.node x).readyState (.outbound 0) = .open := by
    rcases heard_of_no_hello (h.orders x).nodup hnone with hnil | hack
    · exact .inl hnil
    · refine .inr ⟨hack, ((h.link x).open_of_not_closes (fun hc => ?_) ?_).1⟩
      · exact ((h.link x).idle hc).2.2.2 ((h.orders x).caused (by simp [hack]))
      · rintro (hboth | hboth)
        · exact hnone (by simp [hboth])
        · exact hnone ((h.orders x).caused' (by simp [hboth]))
  obtain ⟨hstands, hinn', hout', htoClient, htoServer⟩ :=
    (h.stands x).hears_hello hinn hheard
  rw [step_toServer_frame hi hinn]
  refine fits_of (x := x) h ?_ ?_ ?_ ?_ ?_ ?_
  · simp
  · simp
  · simpa using hstands
  · simpa using (h.orders x).hello hnone
  · unfold LinkAt
    simpa [htoServer, hout'] using hclient
  · unfold LinkAt
    simpa [htoClient, hinn', hinn] using hserver

theorem step_toClient_frame {raw : JsString} {rest : List WireItem}
    (hi : (c.toClient x).items = .frame raw :: rest)
    (ho : (c.node x).readyState (.outbound 0) = .open) :
    c.step (.toClient x) =
      { node := Function.update c.node x ((c.node x).step (.socketMessage 0 raw))
        toServer := Function.update c.toServer x ((c.toServer x).transmit (.outbound 0)
          ((c.node x).step (.socketMessage 0 raw)).effects)
        toClient :=
          Function.update (Function.update c.toClient x (c.toClient x).pop) x.other
            ((c.toClient x.other).transmit (.inbound 0)
              ((c.node x).step (.socketMessage 0 raw)).effects)
        heard := Function.update c.heard x (c.heard x ++ [.ack]) } := by
  unfold step
  dsimp only
  rw [hi]
  dsimp only
  unfold hear
  rw [if_pos (show _ = _ from ho)]
  unfold settle
  dsimp only
  rw [Function.update_of_ne (by simp)]

/-- A frame in the direction of a client arrives. -/
theorem fits_toClient_frame (h : Fits p c) {raw : JsString} {rest : List WireItem}
    (hi : (c.toClient x).items = .frame raw :: rest) : Fits p (c.step (.toClient x)) := by
  obtain ⟨rfl, hhello, hnone, -⟩ := (h.link x).frame_toClient hi
  obtain ⟨hout, hclient⟩ := (h.link x).client_hears (h.orders x) hi
  have hserver := (h.link' x).server_replaces (h.orders x).symm hnone
  have hheard := heard_of_no_ack (h.orders x).nodup hnone
  obtain ⟨hstands, hout', hinn', htoServer, htoClient⟩ := (h.stands x).hears_ack hout hheard
  rw [step_toClient_frame hi hout]
  refine fits_of (x := x) h ?_ ?_ ?_ ?_ ?_ ?_
  · simp
  · simp
  · simpa using hstands
  · simpa using (h.orders x).ack hnone hhello
  · unfold LinkAt
    simpa [htoServer, hout', hout] using hclient
  · unfold LinkAt
    simpa [htoClient, hinn'] using hserver

theorem step_toServer_close {rest : List WireItem}
    (hi : (c.toServer x.other).items = .close :: rest) :
    c.step (.toServer x.other) =
      { node := Function.update c.node x ((c.node x).step (.closeServerSocket 0))
        toServer :=
          Function.update (Function.update c.toServer x.other (c.toServer x.other).pop) x
            ((c.toServer x).transmit (.outbound 0) ((c.node x).step (.closeServerSocket 0)).effects)
        toClient :=
          Function.update (Function.update c.toClient x.other ((c.toClient x.other).push .close))
            x.other (((c.toClient x.other).push .close).transmit (.inbound 0)
              ((c.node x).step (.closeServerSocket 0)).effects)
        heard := c.heard } := by
  unfold step
  dsimp only
  rw [hi]
  dsimp only
  rw [Side.other_other]
  unfold settle
  dsimp only
  rw [Function.update_of_ne (by simp), Function.update_self]

/-- A close in the direction of a server arrives. -/
theorem fits_toServer_close (h : Fits p c) {rest : List WireItem}
    (hi : (c.toServer x.other).items = .close :: rest) : Fits p (c.step (.toServer x.other)) := by
  obtain ⟨hinn, hserver⟩ := (h.link' x).server_closes hi
  have hnode : (c.node x).step (.closeServerSocket 0) =
      ((c.node x).cleared.setReadyState (.inbound 0) .closed).unregisterSocket (.inbound 0) :=
    if_pos hinn
  obtain ⟨hstands, hready, hquiet⟩ := (h.stands x).closes (.inl rfl)
    (ClusterNetwork.step_evolves (h.stands x).sound _).sound hnode
  rw [step_toServer_close hi]
  refine fits_of (x := x) h ?_ ?_ ?_ ?_ ?_ ?_
  · simp
  · rfl
  · simpa using hstands
  · exact h.orders x
  · simpa [LinkAt, hquiet, hready] using h.link x
  · unfold LinkAt
    simpa [hquiet, hready] using hserver

theorem step_toClient_close {rest : List WireItem} (hi : (c.toClient x).items = .close :: rest) :
    c.step (.toClient x) =
      { node := Function.update c.node x ((c.node x).step (.socketClosed 0))
        toServer :=
          Function.update (Function.update c.toServer x ((c.toServer x).push .close)) x
            (((c.toServer x).push .close).transmit (.outbound 0)
              ((c.node x).step (.socketClosed 0)).effects)
        toClient :=
          Function.update (Function.update c.toClient x (c.toClient x).pop) x.other
            ((c.toClient x.other).transmit (.inbound 0)
              ((c.node x).step (.socketClosed 0)).effects)
        heard := c.heard } := by
  unfold step
  dsimp only
  rw [hi]
  dsimp only
  unfold settle
  dsimp only
  rw [Function.update_self, Function.update_of_ne (by simp)]

/-- A close in the direction of a client arrives: its attempt is over, so nothing else happens. -/
theorem fits_toClient_close (h : Fits p c) {rest : List WireItem}
    (hi : (c.toClient x).items = .close :: rest) : Fits p (c.step (.toClient x)) := by
  obtain ⟨hack, -, hopen, hclient⟩ := (h.link x).client_closes (h.orders x) hi
  have hstandsx := h.stands x
  have hnode : (c.node x).step (.socketClosed 0) =
      ((c.node x).cleared.setReadyState (.outbound 0) .closed).unregisterSocket (.outbound 0) := by
    have hcond : 0 < (c.node x).cleared.nextOutbound ∧
        (c.node x).cleared.readyState (.outbound 0) ≠ .closed := ⟨hstandsx.dialled, hopen⟩
    refine (if_pos hcond).trans (if_neg ?_)
    obtain ⟨hattempts, hconnecting⟩ := @ClusterNetwork.unregisterSocket_tables
      ((c.node x).cleared.setReadyState (.outbound 0) .closed) (.outbound 0)
    unfold ClusterNetwork.attemptConnecting
    rw [hattempts, hconnecting]
    show ¬((c.node x).attempts.get (.outbound 0)).any _ = true
    rw [hstandsx.attempt]
    show ¬((c.node x).connectingByNodeId.get (p.nodeId x.other)).isSome = true
    rw [hstandsx.connecting hack]
    exact Bool.false_ne_true
  obtain ⟨hstands, hready, hquiet⟩ := hstandsx.closes (.inr rfl)
    (ClusterNetwork.step_evolves hstandsx.sound _).sound hnode
  rw [step_toClient_close hi]
  refine fits_of (x := x) h ?_ ?_ ?_ ?_ ?_ ?_
  · simp
  · rfl
  · simpa using hstands
  · exact h.orders x
  · unfold LinkAt
    simpa [hquiet, hready] using hclient
  · simpa [LinkAt, hquiet, hready] using h.link' x

/-! ### The opening of a socket -/

/-- An event that changes no table, and closes no socket, changes nothing about the other node. -/
theorem Stands.of_same {st st' : ClusterNetwork} {heard : List Handshake} (h : Stands p d st heard)
    (hs : st'.Sound) (ho : st'.options = st.options)
    (hc : st'.channelsByNodeId = st.channelsByNodeId) (hb : st'.nodeIdBySocket = st.nodeIdBySocket)
    (ha : st'.attempts = st.attempts) (hn : st'.nextOutbound = st.nextOutbound)
    (hcon : st'.connectingByNodeId = st.connectingByNodeId)
    (hr : ∀ s, st'.readyState s = .closed ↔ st.readyState s = .closed) : Stands p d st' heard where
  sound := hs
  nodeId := by rw [ho]; exact h.nodeId
  secret := by rw [ho]; exact h.secret
  channel := by
    rw [hc, h.channel]
    unfold channelOf
    simp only [hr]
  bound := by rw [hc, hb]; exact h.bound
  attempt := by rw [ha]; exact h.attempt
  dialled := by rw [hn]; exact h.dialled
  connecting := by rw [hcon]; exact h.connecting

/-- A node that opens one of its sockets. -/
theorem stands_opening {st : ClusterNetwork} {heard : List Handshake} (h : Stands p d st heard)
    {socket : SocketId} (hr : st.readyState socket = .connecting) {st' : ClusterNetwork}
    (hs : st'.Sound) (htables : st'.tables = (st.cleared.setReadyState socket .open).tables) :
    Stands p d st' heard ∧
      ∀ s, st'.readyState s = if s = socket then .open else st.readyState s := by
  have hready (s : SocketId) : st'.readyState s = if s = socket then .open else st.readyState s :=
    (ClusterNetwork.readyState_of_tables htables s).trans
      (ClusterNetwork.readyState_setReadyState ..)
  refine ⟨h.of_same hs ?_ ?_ ?_ ?_ ?_ ?_ fun s => ?_, hready⟩
  · exact (ClusterNetwork.eq_of_tables (·.options) (fun _ => rfl) htables).trans rfl
  · exact (ClusterNetwork.eq_of_tables (·.channelsByNodeId) (fun _ => rfl) htables).trans rfl
  · exact (ClusterNetwork.eq_of_tables (·.nodeIdBySocket) (fun _ => rfl) htables).trans rfl
  · exact (ClusterNetwork.eq_of_tables (·.attempts) (fun _ => rfl) htables).trans rfl
  · exact (ClusterNetwork.eq_of_tables (·.nextOutbound) (fun _ => rfl) htables).trans rfl
  · exact (ClusterNetwork.eq_of_tables (·.connectingByNodeId) (fun _ => rfl) htables).trans rfl
  · rw [hready]
    split_ifs with heq
    · rw [heq, hr]
      exact ⟨fun hc => (by cases hc), fun hc => (by cases hc)⟩
    · exact Iff.rfl

/-- A node that does nothing but forget the effects of the last event. -/
theorem Stands.cleared {st : ClusterNetwork} {heard : List Handshake} (h : Stands p d st heard) :
    Stands p d st.cleared heard :=
  h.of_same (ClusterNetwork.cleared_evolves (t := none) h.sound).sound rfl rfl rfl rfl rfl rfl
    fun _ => Iff.rfl

/-- The state after a socket that is not open yet has opened, or that is a socket already. -/
theorem step_opened (x : Side) :
    c.step (.opened x) =
      { node := Function.update
          (Function.update c.node x.other ((c.node x.other).step (.openServerSocket 0))) x
            ((c.node x).step (.socketOpened 0))
        toServer := Function.update
          (Function.update c.toServer x.other ((c.toServer x.other).transmit (.outbound 0)
            ((c.node x.other).step (.openServerSocket 0)).effects)) x
            ((c.toServer x).transmit (.outbound 0) ((c.node x).step (.socketOpened 0)).effects)
        toClient := Function.update
          (Function.update c.toClient x ((c.toClient x).transmit (.inbound 0)
            ((c.node x.other).step (.openServerSocket 0)).effects)) x.other
            ((c.toClient x.other).transmit (.inbound 0) ((c.node x).step (.socketOpened 0)).effects)
        heard := c.heard } := by
  show (c.settle x.other (.openServerSocket 0)).settle x (.socketOpened 0) = _
  unfold settle
  dsimp only
  rw [Side.other_other, Function.update_of_ne (by simp), Function.update_of_ne (by simp),
    Function.update_of_ne (by simp)]

/-- The two ends of a socket open. -/
theorem fits_opened (h : Fits p c) (x : Side) : Fits p (c.step (.opened x)) := by
  have hx := h.stands x
  have hy := h.stands x.other
  have hlink := h.link x
  rw [step_opened]
  -- a socket opens once: afterwards the event does nothing at either end
  by_cases hout : (c.node x).readyState (.outbound 0) = .connecting
  · obtain ⟨hinn, hserver, hclient, hnone⟩ := hlink.idle hout
    have hclientNode : (c.node x).step (.socketOpened 0) =
        ((c.node x).cleared.setReadyState (.outbound 0) .open).sendMessage (.outbound 0)
          (hello p x) := by
      refine (if_pos ⟨hx.dialled, hout⟩).trans ?_
      rw [hello, ← hx.nodeId, ← hx.secret]
      rfl
    have hserverNode : (c.node x.other).step (.openServerSocket 0) =
        (c.node x.other).cleared.setReadyState (.inbound 0) .open := if_pos hinn
    obtain ⟨hstands, hready⟩ := stands_opening hx hout
      (ClusterNetwork.step_evolves hx.sound _).sound
      ((congrArg ClusterNetwork.tables hclientNode).trans rfl)
    obtain ⟨hstands', hready'⟩ := stands_opening hy hinn
      (ClusterNetwork.step_evolves hy.sound _).sound (congrArg ClusterNetwork.tables hserverNode)
    -- the client greets, and the server says nothing yet
    have hclientSends (w : Wire) (s : SocketId) :
        w.transmit s ((c.node x).step (.socketOpened 0)).effects =
          if .outbound 0 = s then w.push (.frame (hello p x).toJson.stringify) else w := by
      rw [hclientNode]
      rfl
    have hserverSends (w : Wire) (s : SocketId) :
        w.transmit s ((c.node x.other).step (.openServerSocket 0)).effects = w := by
      rw [hserverNode]
      rfl
    rw [LinkAt, hout] at hlink
    refine ⟨fun d => ?_, h.orders, fun d => ?_⟩
    · rcases Side.eq_or_eq_other x d with rfl | rfl
      · simpa using hstands
      · simpa using hstands'
    · rcases Side.eq_or_eq_other x d with rfl | rfl
      · simpa [LinkAt, hclientSends, hserverSends, hready, hready'] using hlink.opened
      · simpa [LinkAt, hclientSends, hserverSends, hready, hready'] using h.link' x
  · have hclientNode : (c.node x).step (.socketOpened 0) = (c.node x).cleared :=
      if_neg fun hc => hout hc.2
    have hserverNode : (c.node x.other).step (.openServerSocket 0) = (c.node x.other).cleared :=
      if_neg (hlink.up hout)
    have hquiet (st : ClusterNetwork) (w : Wire) (s : SocketId) :
        w.transmit s st.cleared.effects = w := rfl
    have hready (st : ClusterNetwork) (s : SocketId) :
        st.cleared.readyState s = st.readyState s := rfl
    rw [hclientNode, hserverNode]
    refine ⟨fun d => ?_, h.orders, fun d => ?_⟩
    · rcases Side.eq_or_eq_other x d with rfl | rfl
      · simpa using hx.cleared
      · simpa using hy.cleared
    · rcases Side.eq_or_eq_other x d with rfl | rfl
      · simpa [LinkAt, hquiet, hready] using hlink
      · simpa [LinkAt, hquiet, hready] using h.link' x

/-! ### Runs -/

theorem fits_step (h : Fits p c) (m : Move) : Fits p (c.step m) := by
  cases m with
  | opened d => exact fits_opened h d
  | toServer d =>
    obtain ⟨x, rfl⟩ : ∃ x : Side, d = x.other := ⟨d.other, (Side.other_other d).symm⟩
    cases hi : (c.toServer x.other).items with
    | nil =>
      have hstep : c.step (.toServer x.other) = c := by
        unfold step
        dsimp only
        rw [hi]
      rwa [hstep]
    | cons item rest =>
      cases item with
      | frame raw => exact fits_toServer_frame h hi
      | close => exact fits_toServer_close h hi
  | toClient x =>
    cases hi : (c.toClient x).items with
    | nil =>
      have hstep : c.step (.toClient x) = c := by
        unfold step
        dsimp only
        rw [hi]
      rwa [hstep]
    | cons item rest =>
      cases item with
      | frame raw => exact fits_toClient_frame h hi
      | close => exact fits_toClient_close h hi

/-- Once nothing is in flight each node has heard both frames. -/
theorem Fits.complete (h : Fits p c) (hq : c.Quiescent) (d : Side) :
    .hello ∈ c.heard d ∧ .ack ∈ c.heard d := by
  have hhello (d : Side) : .hello ∈ c.heard d.other := by
    obtain ⟨hup, hs, -⟩ := hq d
    by_contra hn
    have hsent := (h.link d).sent hup
    rw [hs, if_neg hn] at hsent
    cases hsent
  have hd := hhello d.other
  rw [Side.other_other] at hd
  refine ⟨hd, ?_⟩
  by_contra hn
  have hanswered := (h.link d).answered
  rw [(hq d).2.2, if_pos ⟨hhello d, hn⟩] at hanswered
  cases hanswered

theorem linked_iff_ackFirst (h : Fits p c) (hq : c.Quiescent) : Linked p c ↔ c.AckFirst := by
  have hcases (d : Side) : c.heard d = [.hello, .ack] ∨ c.heard d = [.ack, .hello] := by
    have hboth := h.complete hq d
    rcases heard_cases (h.orders d).nodup with heq | heq | heq | heq | heq <;> rw [heq] at hboth ⊢
      <;> simp at hboth ⊢
  constructor
  · rintro ⟨d, -, hchannel, -, hopen⟩
    -- the other node heard the `hello` last
    refine ⟨d.other, ?_⟩
    rcases hcases d.other with heq | heq
    · have hother := (h.stands d.other).channel
      rw [Side.other_other, hchannel, heq] at hother
      unfold channelOf at hother
      simp only [List.getLast?_cons_cons, List.getLast?_singleton] at hother
      split_ifs at hother
      cases hother
    · rw [heq]
      rfl
  · rintro ⟨d, hfirst⟩
    have hd : c.heard d = [.ack, .hello] := by
      refine (hcases d).resolve_left fun heq => ?_
      rw [heq] at hfirst
      cases hfirst
    have he : c.heard d.other = [.hello, .ack] := by
      refine (hcases d.other).resolve_right fun heq => ?_
      have hother := (h.orders d).first hfirst
      rw [heq] at hother
      cases hother
    obtain ⟨hout, hinn, -, -⟩ := (h.link' d).open_of_not_closes (hq d.other).1 (by simp [hd, he])
    refine ⟨d.other, ?_, ?_, hout, ?_⟩
    · rw [(h.stands d.other).channel, he]
      simp [channelOf, hout]
    · rw [Side.other_other, (h.stands d).channel, hd]
      simp [channelOf, hinn]
    · rw [Side.other_other]
      exact hinn

/-- **Once nothing is in flight, the two nodes have an open socket as their channel to each other
exactly when one of them heard the `helloAck` on the socket it dialled before the `hello` of the
other.** -/
theorem linked_iff (p : ClusterPair) (moves : List Move)
    (hq : (Machine.run step (start p) moves).Quiescent) :
    Linked p (Machine.run step (start p) moves) ↔ (Machine.run step (start p) moves).AckFirst :=
  linked_iff_ackFirst (Machine.run_invariant (fits_start p) (fun _ m h => fits_step h m) moves) hq

/-- Two nodes without a secret. -/
def pairAB : ClusterPair where
  nodeId
    | .left => js "a"
    | .right => js "b"
  baseUrl _ := js "u"
  sharedSecret := none
  named d := by cases d <;> decide
  distinct d := by cases d <;> decide
  secret := by decide

/-- The left node hears its `helloAck` before the right one says hello. -/
def leftFirst : List Move :=
  [.opened .left, .toServer .left, .toClient .left, .opened .right, .toServer .right,
    .toClient .right, .toServer .left, .toClient .left]

/-- The link over the socket that the right node dialled is usable. -/
theorem linked_leftFirst : Linked pairAB (Machine.run step (start pairAB) leftFirst) := by
  refine (linked_iff pairAB leftFirst fun d => ?_).2 ⟨.left, by decide +kernel⟩
  cases d <;> exact ⟨by decide +kernel, by decide +kernel, by decide +kernel⟩

/-- Both nodes hear both `hello`s before they hear a `helloAck`. -/
def hellosFirst : List Move :=
  [.opened .left, .opened .right, .toServer .left, .toServer .right, .toClient .left,
    .toClient .right, .toClient .left, .toClient .right, .toServer .left, .toServer .right]

/-- Each node closes the socket that the other one has as its channel, and no link is left. -/
theorem hellosFirst_unlinked : ¬∀ p moves, (Machine.run step (start p) moves).Quiescent →
    Linked p (Machine.run step (start p) moves) := by
  intro h
  obtain ⟨d, -, -, hopen, -⟩ := h pairAB hellosFirst fun d => by
    cases d <;> exact ⟨by decide +kernel, by decide +kernel, by decide +kernel⟩
  revert hopen
  cases d <;> decide +kernel

end Crossing

end Hardess
