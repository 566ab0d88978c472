import Hardess.Cluster.DistributedPeerLocator

/-!
# Invalidation of the locator's cache

A locate that was issued before an invalidation may come back after it.

* `Covers`: an invalidation is about a peer; `Matches`: it drops the entry under a key;
* `Issues`: a call asks the cluster;
* `Landed`: what a locate from before an invalidation brings is not stored under a key that the
  invalidation dropped;
* **`renewed_of_landed`**: then a call that starts after the invalidation returns for its peers only
  what the local locator gives and what was asked for after the invalidation.
-/

namespace Hardess

namespace DistributedPeerLocator

variable {locator start : DistributedPeerLocator} {es : List Event} {e : Event}
  {q : Option JsString} {peerId : JsString} {options : Option FindOptions} {conn : ConnRef}

/-- `invalidate` with this argument is about the peer. -/
def Covers (q : Option JsString) (peerId : JsString) : Prop :=
  ∀ p, q = some p → p ≠ [] → p = peerId

theorem Covers.matches (h : Covers q peerId) (options : Option FindOptions) :
    Matches q (cacheKey peerId options) := by
  rintro p rfl hp
  rw [h p rfl hp]
  cases options with
  | none => exact ⟨js "*", (List.append_assoc ..).symm⟩
  | some options => exact ⟨options.groupId.getD (js "__default__"), (List.append_assoc ..).symm⟩

/-! ### What is asked for after an invalidation -/

/-- A call asks the cluster for what the cache does not know. -/
def Issues (id : ℕ) (locator : DistributedPeerLocator) (e : Event) : Prop :=
  ∃ result currentTime peerIds options, e = .localFound id result true currentTime ∧
    locator.calls.get id = some (.awaitingLocal peerIds options) ∧
    (lookUp locator.cache options currentTime peerIds result).1 ≠ []

/-- The cluster gave the connection to a call that asked after the start. -/
def Relocated (start : DistributedPeerLocator) (es : List Event) (conn : ConnRef) : Prop :=
  ∃ id peerId options currentTime conns, conn ∈ conns ∧
    Machine.Past step start es (Issues id) ∧
    Machine.Past step start es (Locates id peerId options currentTime conns)

/-- The local locator gave the connection in this call, or the cluster gave it after the start. -/
def Recent (start : DistributedPeerLocator) (es : List Event) (call : ℕ) (peerId : JsString)
    (conn : ConnRef) : Prop :=
  Machine.Past step start es (Answers call peerId conn) ∨ Relocated start es conn

/-- After an invalidation a new call returns, for the peers that it was about, what is recent. -/
def Renewed (cacheTtlMs : ℕ) (es : List Event) : Prop :=
  ∀ before q rest, es = before ++ .invalidate q :: rest →
    ∀ r ∈ (Machine.run step (create cacheTtlMs) es).found,
      (Machine.run step (create cacheTtlMs) (before ++ [.invalidate q])).nextCall ≤ r.call →
      ∀ peerId, Covers q peerId → ∀ conn ∈ listed r.result peerId,
        Recent (Machine.run step (create cacheTtlMs) (before ++ [.invalidate q])) rest r.call peerId
          conn

/-- A locate that was under way when `invalidate` was called brings no connections for a key that
was dropped. -/
def Landed (cacheTtlMs : ℕ) (es : List Event) (e : Event) : Prop :=
  ∀ id remote, e = .located id remote →
  ∀ options currentTime cacheMisses result,
    (Machine.run step (create cacheTtlMs) es).calls.get id =
      some (.awaitingRemote options currentTime cacheMisses result) →
  ∀ before q rest, es = before ++ .invalidate q :: rest →
    (Machine.run step (create cacheTtlMs) (before ++ [.invalidate q])).calls.get id =
      some (.awaitingRemote options currentTime cacheMisses result) →
  ∀ p ∈ cacheMisses, listed remote p ≠ [] → ¬Matches q (cacheKey p options)

/-! ### Calls are numbered -/

/-- The calls that run and that have returned have numbers below the next one. -/
structure Numbered (locator : DistributedPeerLocator) : Prop where
  calls : ∀ id call, locator.calls.get id = some call → id < locator.nextCall
  found : ∀ r ∈ locator.found, r.call < locator.nextCall

theorem numbered_create (cacheTtlMs : ℕ) : Numbered (create cacheTtlMs) :=
  ⟨by simp [create], by simp [create]⟩

theorem Numbered.return_ (h : Numbered locator) {id : ℕ} {call : FindCall}
    {result : JsMap JsString (List ConnRef)} (hcall : locator.calls.get id = some call) :
    Numbered (locator.return_ id options result) := by
  refine ⟨fun id' call' hcall' => h.calls id' call' (JsMap.get_of_get_delete hcall').2, ?_⟩
  intro r hr
  rcases List.mem_append.1 hr with hold | hnew
  · exact h.found r hold
  · rw [List.mem_singleton.1 hnew]
    exact h.calls id call hcall

theorem Numbered.cached (h : Numbered locator) (cache : JsMap JsString CacheEntry) :
    Numbered { locator with cache } := ⟨h.calls, h.found⟩

theorem numbered_step (h : Numbered locator) (e : Event) : Numbered (locator.step e) := by
  cases e with
  | findMany peerIds options =>
    refine ⟨fun id call hcall => ?_, fun r hr => (h.found r hr).trans (Nat.lt_succ_self _)⟩
    simp only [step, JsMap.get_set] at hcall ⊢
    split_ifs at hcall with hid
    · omega
    · exact (h.calls id call hcall).trans (Nat.lt_succ_self _)
  | localFound id result hasPeers currentTime =>
    rw [step]
    rcases locator.localFound_cases id result hasPeers currentTime with
      heq | ⟨peerIds, options, hcall, ⟨-, heq⟩ | ⟨-, heq⟩ | ⟨-, -, heq⟩⟩ <;> rw [heq]
    · exact h
    · exact h.return_ hcall
    · exact h.return_ hcall
    · refine ⟨fun id' call' hcall' => ?_, h.found⟩
      rw [JsMap.get_set] at hcall'
      split_ifs at hcall' with hid
      · exact hid ▸ h.calls id _ hcall
      · exact h.calls id' call' hcall'
  | located id remote =>
    rw [step]
    rcases locator.located_cases id remote with heq | ⟨_, _, _, _, hcall, heq⟩ <;> rw [heq]
    · exact h
    · exact (h.cached _).return_ hcall
  | failed id =>
    exact ⟨fun id' call' hcall' => h.calls id' call' (JsMap.get_of_get_delete hcall').2, h.found⟩
  | invalidate peerId => exact ⟨h.calls, h.found⟩

/-! ### The cache after an invalidation -/

/-- What the entries under dropped keys, the calls and the results hold is recent. -/
structure Renews (q : Option JsString) (start : DistributedPeerLocator) (es : List Event)
    (locator : DistributedPeerLocator) : Prop where
  cache : ∀ key cached, locator.cache.get key = some cached → Matches q key →
    ∀ conn ∈ cached.conns, Relocated start es conn
  calls : ∀ id options currentTime cacheMisses result,
    locator.calls.get id = some (.awaitingRemote options currentTime cacheMisses result) →
    start.calls.get id = some (.awaitingRemote options currentTime cacheMisses result) ∨
      (Machine.Past step start es (Issues id) ∧ ∀ peerId, Covers q peerId →
        ∀ conn ∈ listed result peerId, Recent start es id peerId conn)
  found : ∀ r ∈ locator.found, start.nextCall ≤ r.call → ∀ peerId, Covers q peerId →
    ∀ conn ∈ listed r.result peerId, Recent start es r.call peerId conn

theorem Relocated.append (h : Relocated start es conn) (fs : List Event) :
    Relocated start (es ++ fs) conn := by
  obtain ⟨id, p, options, currentTime, conns, hconn, hissues, hlocates⟩ := h
  exact ⟨id, p, options, currentTime, conns, hconn, hissues.append fs, hlocates.append fs⟩

theorem Recent.append {call : ℕ} (h : Recent start es call peerId conn) (fs : List Event) :
    Recent start (es ++ fs) call peerId conn :=
  h.imp (fun h => h.append fs) (fun h => h.append fs)

/-- Right after the invalidation there is nothing under the keys that it dropped. -/
theorem renews_invalidate (h : Numbered locator) :
    Renews q (locator.step (.invalidate q)) [] (locator.step (.invalidate q)) := by
  refine ⟨fun key cached hget hmatches => ?_, fun _ _ _ _ _ hcall => .inl hcall, ?_⟩
  · have hkept := (JsMap.get_filter.1 hget).2
    simp [hmatches] at hkept
  · intro r hr hnew
    exact absurd (h.found r hr) (Nat.not_lt.2 hnew)

theorem Renews.return_ (h : Renews q start es locator) {id : ℕ}
    {result : JsMap JsString (List ConnRef)}
    (hresult : start.nextCall ≤ id → ∀ peerId, Covers q peerId →
      ∀ conn ∈ listed result peerId, Recent start es id peerId conn) :
    Renews q start es (locator.return_ id options result) := by
  refine ⟨h.cache, fun id' _ _ _ _ hcall => h.calls _ _ _ _ _ (JsMap.get_of_get_delete hcall).2, ?_⟩
  intro r hr
  rcases List.mem_append.1 hr with hold | hnew
  · exact h.found r hold
  · rw [List.mem_singleton.1 hnew]
    exact hresult

/-- The loop over the peers gives what is recent. -/
theorem Renews.recent_lookUp {peerIds : List JsString} {currentTime id : ℕ}
    {result : JsMap JsString (List ConnRef)} (h : Renews q start es locator)
    (hlocal : ∀ peerId, ∀ conn ∈ listed result peerId, Recent start es id peerId conn)
    (hcovers : Covers q peerId)
    (hconn : conn ∈ listed (lookUp locator.cache options currentTime peerIds result).2 peerId) :
    Recent start es id peerId conn := by
  rcases mem_lookUp hconn with hanswer | ⟨-, cached, hfresh, hcached⟩
  · exact hlocal peerId conn hanswer
  · exact .inr (h.cache _ cached (fresh_eq_some_iff.1 hfresh).1 (hcovers.matches options) conn hcached)

/-- One event, when a locate from before brings nothing for the keys that were dropped. -/
theorem renews_step (hstart : Numbered start)
    (h : Renews q start es (Machine.run step start es))
    (hlanded : ∀ id remote, e = .located id remote →
      ∀ options currentTime cacheMisses result,
        (Machine.run step start es).calls.get id =
          some (.awaitingRemote options currentTime cacheMisses result) →
        start.calls.get id = some (.awaitingRemote options currentTime cacheMisses result) →
        ∀ p ∈ cacheMisses, listed remote p ≠ [] → ¬Matches q (cacheKey p options)) :
    Renews q start (es ++ [e]) ((Machine.run step start es).step e) := by
  have hsame : Renews q start (es ++ [e]) (Machine.run step start es) := by
    refine ⟨fun key cached hget hm conn hconn => (h.cache key cached hget hm conn hconn).append _,
      fun id _ _ _ _ hcall => ?_,
      fun r hr hnew p hp conn hconn => (h.found r hr hnew p hp conn hconn).append _⟩
    exact (h.calls id _ _ _ _ hcall).imp_right fun ⟨hissues, hrecent⟩ =>
      ⟨hissues.append _, fun p hp conn hconn => (hrecent p hp conn hconn).append _⟩
  cases e with
  | findMany peerIds options =>
    refine ⟨hsame.cache, fun id options' time misses result hcall => ?_, hsame.found⟩
    simp only [step, JsMap.get_set] at hcall
    split_ifs at hcall
    · cases hcall
    · exact hsame.calls _ _ _ _ _ hcall
  | localFound id result hasPeers currentTime =>
    rw [step]
    rcases localFound_cases _ id result hasPeers currentTime with
      heq | ⟨peerIds, options, hcall, hcases⟩
    · rw [heq]
      exact hsame
    · have hanswer : ∀ p, ∀ conn ∈ listed result p,
          Recent start (es ++ [.localFound id result hasPeers currentTime]) id p conn :=
        fun p conn hconn => .inl (Machine.Past.last
          ⟨result, hasPeers, currentTime, peerIds, options, rfl, hcall, hconn⟩)
      rcases hcases with ⟨-, heq⟩ | ⟨-, heq⟩ | ⟨rfl, hmisses, heq⟩ <;> rw [heq]
      · exact hsame.return_ fun _ p _ => hanswer p
      · exact hsame.return_ fun _ p hp conn hconn => hsame.recent_lookUp hanswer hp hconn
      · refine ⟨hsame.cache, fun id' options' time' misses' result' hcall' => ?_, hsame.found⟩
        rw [JsMap.get_set] at hcall'
        split_ifs at hcall' with hid
        · cases hcall'
          subst hid
          exact .inr ⟨Machine.Past.last ⟨result, currentTime, peerIds, options, rfl, hcall, hmisses⟩,
            fun p hp conn hconn => hsame.recent_lookUp hanswer hp hconn⟩
        · exact hsame.calls _ _ _ _ _ hcall'
  | located id remote =>
    rw [step]
    rcases located_cases _ id remote with heq | ⟨options, time, misses, result, hcall, heq⟩ <;>
      rw [heq]
    · exact hsame
    have hlocates : ∀ p ∈ misses, Machine.Past step start (es ++ [.located id remote])
        (Locates id p options time (listed remote p)) := fun p hp =>
      Machine.Past.last ⟨remote, misses, result, rfl, hcall, hp, rfl⟩
    -- a call from before the invalidation has stored nothing under the keys that it dropped
    have hstored : Renews q start (es ++ [.located id remote])
        { Machine.run step start es with
          cache := (storeRemote remote options
            (time + (Machine.run step start es).cacheTtlMs) misses
            (Machine.run step start es).cache result).1 } := by
      refine ⟨fun key cached hget hm conn hconn => ?_, hsame.calls, hsame.found⟩
      rcases get_storeRemote hget with hold | ⟨p, hp, hsome, rfl, rfl⟩
      · exact hsame.cache key cached hold hm conn hconn
      · rcases hsame.calls _ _ _ _ _ hcall with hbefore | ⟨hissues, -⟩
        · exact absurd hm (hlanded id remote rfl options time misses result hcall hbefore p hp hsome)
        · exact ⟨id, p, options, time, _, hconn, hissues, hlocates p hp⟩
    refine hstored.return_ fun hnew p hp conn hconn => ?_
    rcases hsame.calls _ _ _ _ _ hcall with hbefore | ⟨hissues, hrecent⟩
    · exact absurd (hstart.calls id _ hbefore) (Nat.not_lt.2 hnew)
    · rcases mem_storeRemote hconn with hold | ⟨hmem, hremote⟩
      · exact hrecent p hp conn hold
      · exact .inr ⟨id, p, options, time, _, hremote, hissues, hlocates p hmem⟩
  | failed id =>
    exact ⟨hsame.cache, fun _ _ _ _ _ hcall =>
      hsame.calls _ _ _ _ _ (JsMap.get_of_get_delete hcall).2, hsame.found⟩
  | invalidate q' =>
    exact ⟨fun key cached hget => hsame.cache key cached (JsMap.get_filter.1 hget).1, hsame.calls,
      hsame.found⟩

/-- **As long as no locate that was under way when `invalidate` was called brings connections for a
key that was dropped, a call that starts after an invalidation returns for its peers only what the
local locator gives in this call and what the cluster was asked for after the invalidation.** -/
theorem renewed_of_landed (cacheTtlMs : ℕ) {es : List Event}
    (h : ∀ pre e post, es = pre ++ e :: post → Landed cacheTtlMs pre e) : Renewed cacheTtlMs es := by
  rintro before q rest rfl
  set start := Machine.run step (create cacheTtlMs) (before ++ [.invalidate q]) with hs
  have hrun : ∀ fs, Machine.run step (create cacheTtlMs) (before ++ .invalidate q :: fs) =
      Machine.run step start fs := by
    intro fs
    rw [hs, ← Machine.run_append, List.append_assoc, List.singleton_append]
  have hnumbered : Numbered (Machine.run step (create cacheTtlMs) before) :=
    Machine.run_invariant (numbered_create cacheTtlMs) (fun _ e hn => numbered_step hn e) before
  have hstart : start = (Machine.run step (create cacheTtlMs) before).step (.invalidate q) := by
    rw [hs, Machine.run_concat]
  rw [hrun]
  have hinv : ∀ fs, (∀ pre e post, fs = pre ++ e :: post →
      Landed cacheTtlMs (before ++ .invalidate q :: pre) e) →
      Renews q start fs (Machine.run step start fs) := by
    refine Machine.history_invariant (hstart ▸ renews_invalidate hnumbered) fun pre e hr hl => ?_
    refine renews_step (hstart ▸ numbered_step hnumbered _) hr fun id remote he => ?_
    intro options currentTime misses result hcall hbefore
    rw [← hrun] at hcall
    exact hl id remote he options currentTime misses result hcall before q pre rfl hbefore
  refine (hinv rest fun pre e post heq => h (before ++ .invalidate q :: pre) e post ?_).found
  rw [heq, List.append_assoc, List.cons_append]

/-! ### A lookup in flight -/

/-- The peer's connection, as another node has it. -/
def elsewhere : ConnRef := { nodeId := js "n2", connId := js "k", peerId := js "p" }

/-- A lookup is under way when the peer is forgotten, and brings nothing; the next two find it. -/
def lookedUpAgain : List Event :=
  [.findMany [js "p"] none, .localFound 0 .empty true 0, .invalidate (some (js "p")),
    .located 0 .empty, .findMany [js "p"] none, .localFound 1 .empty true 1,
    .located 1 (JsMap.empty.set (js "p") [elsewhere]), .findMany [js "p"] none,
    .localFound 2 .empty true 2]

/-- There is one invalidation. -/
theorem before_of_lookedUpAgain {before rest : List Event}
    (h : lookedUpAgain = before ++ .invalidate q :: rest) : before = lookedUpAgain.take 2 := by
  have hget : lookedUpAgain[before.length]? = some (.invalidate q) := by
    rw [h, List.getElem?_append_right (Nat.le_refl _), Nat.sub_self]
    rfl
  have hlength : before.length = 2 := by
    generalize before.length = n at hget
    rcases n with _ | _ | _ | _ | _ | _ | _ | _ | _ | n <;> simp [lookedUpAgain] at hget ⊢
  rw [← hlength, h, List.take_left]

theorem renewed_lookedUpAgain : Renewed 250 lookedUpAgain ∧
    (Machine.run step (create 250) lookedUpAgain).found.map (fun r => listed r.result (js "p")) =
      [[], [elsewhere], [elsewhere]] := by
  refine ⟨renewed_of_landed 250 ?_, by decide +kernel⟩
  rintro pre e post heq id remote rfl options currentTime misses result - before q rest rfl hbefore p
    - hlisted
  have hmem : .located id remote ∈ lookedUpAgain := by
    rw [heq]
    simp
  simp only [lookedUpAgain, List.mem_cons, reduceCtorEq, Event.located.injEq, false_or, or_false,
    List.not_mem_nil] at hmem
  rcases hmem with ⟨rfl, rfl⟩ | ⟨rfl, rfl⟩
  · -- the lookup that was under way brings nothing
    exact absurd rfl hlisted
  · -- the other one starts later
    rw [before_of_lookedUpAgain (heq.trans (List.append_assoc ..))] at hbefore
    have hnone : (Machine.run step (create 250) (lookedUpAgain.take 2 ++ [.invalidate q])).calls.get
        1 = none := rfl
    rw [hnone] at hbefore
    cases hbefore

/-- The cluster answers after `invalidate` has been called. -/
def inFlight : List Event :=
  [.findMany [js "p"] none, .localFound 0 .empty true 0, .invalidate (some (js "p")),
    .located 0 (JsMap.empty.set (js "p") [elsewhere]), .findMany [js "p"] none,
    .localFound 1 .empty true 1]

/-- A call that starts after the invalidation is given what an earlier locate brought. -/
theorem not_renewed : ¬∀ cacheTtlMs es, Renewed cacheTtlMs es := by
  intro h
  have hfound : ∃ r ∈ (Machine.run step (create 250) inFlight).found,
      r.call = 1 ∧ elsewhere ∈ listed r.result (js "p") := by
    refine ⟨_, List.mem_of_getElem? (i := 1) rfl, ?_⟩
    decide +kernel
  obtain ⟨r, hr, hcall, hconn⟩ := hfound
  rcases h 250 inFlight (inFlight.take 2) (some (js "p")) (inFlight.drop 3) rfl r hr
    (by rw [hcall]; decide) (js "p") (fun p hp _ => (Option.some.inj hp).symm) elsewhere hconn with
    ⟨pre, e, post, heq, result, _, _, _, _, rfl, -, hlocal⟩ | ⟨id, _, _, _, _, -, hissues, -⟩
  · -- the local locator knows nobody
    have hmem : .localFound r.call result _ _ ∈ inFlight.drop 3 := heq ▸ List.mem_append_cons_self
    simp only [inFlight, List.drop_succ_cons, List.drop_zero, List.mem_cons, List.not_mem_nil,
      or_false, reduceCtorEq, false_or, Event.localFound.injEq] at hmem
    obtain ⟨-, rfl, -⟩ := hmem
    cases hlocal
  · -- nobody asks the cluster after the invalidation
    simp only [inFlight, List.drop_succ_cons, List.drop_zero, Machine.past_cons_iff,
      Machine.past_nil, or_false] at hissues
    rcases hissues with ⟨_, _, _, _, he, -⟩ | ⟨_, _, _, _, he, -⟩ | ⟨_, _, _, _, he, hget, hmisses⟩
    · cases he
    · cases he
    · cases he
      cases hget
      exact hmisses (by decide +kernel)

end DistributedPeerLocator

end Hardess
