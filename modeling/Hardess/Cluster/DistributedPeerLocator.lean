import Hardess.Lib.Machine
import Hardess.Routing.PeerLocator

/-!
# The locator with a cache

`DistributedPeerLocator` of `src/runtime/cluster/peer-locator.ts` as a machine. A call of `findMany`
waits twice, for the local locator and for the nodes of the cluster; other calls come in between.

* `lookUp`, `storeRemote`: the two loops over the peers;
* `step`: one event; what the local locator and the cluster answer is part of the event;
* `Answers`, `LooksUp`, `Locates`: the events that bring connections;
* `Collides`: two lookups with different peers or groups share a cache key;
* **`transparent_of_apart`**: as long as no entry is found that a colliding lookup left, every
  connection comes from the local locator in this call, or from a locate for the same peer and group
  that is not too old.
-/

namespace Hardess

/-- The options of `findMany`. -/
structure FindOptions where
  groupId : Option JsString := none
  deriving DecidableEq

/-- The group that is asked for; without options none is. -/
def scopeGroup (options : Option FindOptions) : Option JsString :=
  options.bind FindOptions.groupId

/-- `CacheEntry`. -/
structure CacheEntry where
  expiresAt : ℕ
  conns : List ConnRef
  deriving DecidableEq

/-- Where a call of `findMany` waits. -/
inductive FindCall
  | awaitingLocal (peerIds : List JsString) (options : Option FindOptions)
  | awaitingRemote (options : Option FindOptions) (currentTime : ℕ) (cacheMisses : List JsString)
      (result : JsMap JsString (List ConnRef))

/-- What a call of `findMany` returned. -/
structure Found where
  call : ℕ
  options : Option FindOptions
  result : JsMap JsString (List ConnRef)

/-- `cacheKey`. -/
def cacheKey (peerId : JsString) : Option FindOptions → JsString
  | none => js "*" ++ js ":" ++ peerId
  | some options => options.groupId.getD (js "__default__") ++ js ":" ++ peerId

/-- `DistributedPeerLocator`, with the calls that are running. -/
structure DistributedPeerLocator where
  cacheTtlMs : ℕ
  cache : JsMap JsString CacheEntry := .empty
  calls : JsMap ℕ FindCall := .empty
  nextCall : ℕ := 0
  found : List Found := []

namespace DistributedPeerLocator

/-! ### The code -/

/-- The entry under a key, if it has not expired. -/
def fresh (cache : JsMap JsString CacheEntry) (currentTime : ℕ) (key : JsString) :
    Option CacheEntry :=
  (cache.get key).filter fun cached => currentTime < cached.expiresAt

/-- The loop over the peers: the peers that the cache does not know, and the result so far. -/
def lookUp (cache : JsMap JsString CacheEntry) (options : Option FindOptions) (currentTime : ℕ) :
    List JsString → JsMap JsString (List ConnRef) →
      List JsString × JsMap JsString (List ConnRef)
  | [], result => ([], result)
  | peerId :: peerIds, result =>
    match fresh cache currentTime (cacheKey peerId options) with
    | some cached =>
      lookUp cache options currentTime peerIds
        (result.set peerId (mergeConnRefs ((result.get peerId).getD []) cached.conns))
    | none =>
      let (cacheMisses, result) := lookUp cache options currentTime peerIds result
      (peerId :: cacheMisses, result)

/-- The loop over the cache misses: the cache and the result. -/
def storeRemote (remote : JsMap JsString (List ConnRef)) (options : Option FindOptions)
    (expiresAt : ℕ) :
    List JsString → JsMap JsString CacheEntry → JsMap JsString (List ConnRef) →
      JsMap JsString CacheEntry × JsMap JsString (List ConnRef)
  | [], cache, result => (cache, result)
  | peerId :: cacheMisses, cache, result =>
    let remoteConns := (remote.get peerId).getD []
    storeRemote remote options expiresAt cacheMisses
      (if 0 < remoteConns.length then
        cache.set (cacheKey peerId options) { expiresAt, conns := remoteConns }
      else cache.delete (cacheKey peerId options))
      (result.set peerId (mergeConnRefs ((result.get peerId).getD []) remoteConns))

/-- What can happen to the locator. -/
inductive Event
  /-- `findMany` is called. -/
  | findMany (peerIds : List JsString) (options : Option FindOptions)
  /-- The local locator answers a call, at a time of the clock. -/
  | localFound (id : ℕ) (result : JsMap JsString (List ConnRef)) (hasPeers : Bool)
      (currentTime : ℕ)
  /-- The cluster answers a call. -/
  | located (id : ℕ) (remote : JsMap JsString (List ConnRef))
  /-- What a call waits for fails, and the call with it. -/
  | failed (id : ℕ)
  /-- `invalidate` is called. -/
  | invalidate (peerId : Option JsString)

/-- `invalidate` drops the entry under a key. -/
def Matches (peerId : Option JsString) (key : JsString) : Prop :=
  ∀ p, peerId = some p → p ≠ [] → js ":" ++ p <:+ key

instance (peerId : Option JsString) (key : JsString) : Decidable (Matches peerId key) :=
  match peerId with
  | none => isTrue fun _ h => by cases h
  | some p =>
    decidable_of_iff (p ≠ [] → js ":" ++ p <:+ key)
      ⟨fun h q hq hne => by cases hq; exact h hne, fun h hne => h p rfl hne⟩

variable (locator : DistributedPeerLocator)

/-- A call returns. -/
def return_ (id : ℕ) (options : Option FindOptions) (result : JsMap JsString (List ConnRef)) :
    DistributedPeerLocator :=
  { locator with
    calls := locator.calls.delete id
    found := locator.found ++ [{ call := id, options, result }] }

/-- `findMany` goes on when the local locator has answered. -/
def localFound (id : ℕ) (result : JsMap JsString (List ConnRef)) (hasPeers : Bool)
    (currentTime : ℕ) : DistributedPeerLocator :=
  match locator.calls.get id with
  | some (.awaitingLocal peerIds options) =>
    if hasPeers then
      let (cacheMisses, result) := lookUp locator.cache options currentTime peerIds result
      if cacheMisses.length = 0 then locator.return_ id options result
      else
        { locator with
          calls := locator.calls.set id (.awaitingRemote options currentTime cacheMisses result) }
    else locator.return_ id options result
  | _ => locator

/-- `findMany` goes on when the cluster has answered. -/
def located (id : ℕ) (remote : JsMap JsString (List ConnRef)) : DistributedPeerLocator :=
  match locator.calls.get id with
  | some (.awaitingRemote options currentTime cacheMisses result) =>
    let (cache, result) := storeRemote remote options (currentTime + locator.cacheTtlMs)
      cacheMisses locator.cache result
    { locator with cache }.return_ id options result
  | _ => locator

/-- `invalidate`. -/
def invalidate (peerId : Option JsString) : DistributedPeerLocator :=
  { locator with cache := locator.cache.filter fun key _ => ¬Matches peerId key }

/-- One event. -/
def step : Event → DistributedPeerLocator
  | .findMany peerIds options =>
    { locator with
      calls := locator.calls.set locator.nextCall (.awaitingLocal peerIds options)
      nextCall := locator.nextCall + 1 }
  | .localFound id result hasPeers currentTime =>
    locator.localFound id result hasPeers currentTime
  | .located id remote => locator.located id remote
  | .failed id => { locator with calls := locator.calls.delete id }
  | .invalidate peerId => locator.invalidate peerId

/-! ### The loops -/

variable {locator} {cache : JsMap JsString CacheEntry} {options : Option FindOptions}
  {peerIds cacheMisses : List JsString} {peerId : JsString} {conn : ConnRef}
  {result remote : JsMap JsString (List ConnRef)} {currentTime : ℕ}

/-- The connections of a peer in a result. -/
def listed (result : JsMap JsString (List ConnRef)) (peerId : JsString) : List ConnRef :=
  (result.get peerId).getD []

theorem mem_listed_set {conns : List ConnRef} {p : JsString}
    (h : conn ∈ listed (result.set p (mergeConnRefs (listed result p) conns)) peerId) :
    conn ∈ listed result peerId ∨ (peerId = p ∧ conn ∈ conns) := by
  unfold listed at h
  rw [JsMap.get_set] at h
  split_ifs at h with heq
  · subst heq
    rcases mem_of_mem_mergeConnRefs h with hleft | hright
    · exact .inl hleft
    · exact .inr ⟨rfl, hright⟩
  · exact .inl h

theorem fresh_eq_some_iff {key : JsString} {cached : CacheEntry} :
    fresh cache currentTime key = some cached ↔
      cache.get key = some cached ∧ currentTime < cached.expiresAt := by
  simp [fresh, Option.filter_eq_some_iff]

/-- A connection comes from the local locator or from an entry that has not expired. -/
theorem mem_lookUp (h : conn ∈ listed (lookUp cache options currentTime peerIds result).2 peerId) :
    conn ∈ listed result peerId ∨ peerId ∈ peerIds ∧ ∃ cached,
      fresh cache currentTime (cacheKey peerId options) = some cached ∧ conn ∈ cached.conns := by
  induction peerIds generalizing result with
  | nil => exact .inl h
  | cons p peerIds ih =>
    rw [lookUp] at h
    split at h
    · next cached hfresh =>
      rcases ih h with hresult | ⟨hmem, hcached⟩
      · rcases mem_listed_set hresult with hold | ⟨rfl, hconn⟩
        · exact .inl hold
        · exact .inr ⟨List.mem_cons_self, cached, hfresh, hconn⟩
      · exact .inr ⟨List.mem_cons_of_mem p hmem, hcached⟩
    · rcases ih h with hold | ⟨hmem, hcached⟩
      · exact .inl hold
      · exact .inr ⟨List.mem_cons_of_mem p hmem, hcached⟩

/-- A connection was there before or comes from the cluster. -/
theorem mem_storeRemote {expiresAt : ℕ}
    (h : conn ∈ listed (storeRemote remote options expiresAt cacheMisses cache result).2 peerId) :
    conn ∈ listed result peerId ∨ (peerId ∈ cacheMisses ∧ conn ∈ listed remote peerId) := by
  induction cacheMisses generalizing cache result with
  | nil => exact .inl h
  | cons p cacheMisses ih =>
    rcases ih h with hresult | ⟨hmem, hremote⟩
    · rcases mem_listed_set hresult with hold | ⟨rfl, hconn⟩
      · exact .inl hold
      · exact .inr ⟨List.mem_cons_self, hconn⟩
    · exact .inr ⟨List.mem_cons_of_mem p hmem, hremote⟩

/-- An entry was there before or holds what the cluster knows of a peer. -/
theorem get_storeRemote {expiresAt : ℕ} {key : JsString} {cached : CacheEntry}
    (h : (storeRemote remote options expiresAt cacheMisses cache result).1.get key = some cached) :
    cache.get key = some cached ∨ ∃ p ∈ cacheMisses, listed remote p ≠ [] ∧
      key = cacheKey p options ∧ cached = { expiresAt, conns := listed remote p } := by
  induction cacheMisses generalizing cache result with
  | nil => exact .inl h
  | cons p cacheMisses ih =>
    rcases ih h with hcache | ⟨q, hq, hfound⟩
    · split_ifs at hcache with hsome
      · rw [JsMap.get_set] at hcache
        split_ifs at hcache with hkey
        · cases hcache
          exact .inr ⟨p, List.mem_cons_self, List.length_pos_iff.1 hsome, hkey, rfl⟩
        · exact .inl hcache
      · exact .inl (JsMap.get_of_get_delete hcache).2
    · exact .inr ⟨q, List.mem_cons_of_mem p hq, hfound⟩

/-! ### What an event does -/

/-- What becomes of a call when the local locator answers. -/
theorem localFound_cases (locator : DistributedPeerLocator) (id : ℕ)
    (result : JsMap JsString (List ConnRef)) (hasPeers : Bool) (currentTime : ℕ) :
    locator.localFound id result hasPeers currentTime = locator ∨
    ∃ peerIds options, locator.calls.get id = some (.awaitingLocal peerIds options) ∧
      ((hasPeers = false ∧ locator.localFound id result hasPeers currentTime =
          locator.return_ id options result) ∨
        (hasPeers = true ∧ locator.localFound id result hasPeers currentTime =
          locator.return_ id options
            (lookUp locator.cache options currentTime peerIds result).2) ∨
        (hasPeers = true ∧ (lookUp locator.cache options currentTime peerIds result).1 ≠ [] ∧
          locator.localFound id result hasPeers currentTime = { locator with
            calls := locator.calls.set id (.awaitingRemote options currentTime
              (lookUp locator.cache options currentTime peerIds result).1
              (lookUp locator.cache options currentTime peerIds result).2) })) := by
  unfold localFound
  split
  · next peerIds options hcall =>
    refine .inr ⟨peerIds, options, hcall, ?_⟩
    cases hasPeers with
    | false => exact .inl ⟨rfl, rfl⟩
    | true =>
      -- with peers, the cluster is asked for what the cache lacks
      rw [if_pos rfl]
      dsimp only
      split_ifs with hmisses
      · exact .inr (.inl ⟨rfl, rfl⟩)
      · exact .inr (.inr ⟨rfl, fun hnil => hmisses (by rw [hnil]; rfl), rfl⟩)
  · exact .inl rfl

/-- What becomes of a call when the cluster answers. -/
theorem located_cases (locator : DistributedPeerLocator) (id : ℕ)
    (remote : JsMap JsString (List ConnRef)) :
    locator.located id remote = locator ∨
    ∃ options currentTime cacheMisses result,
      locator.calls.get id = some (.awaitingRemote options currentTime cacheMisses result) ∧
      locator.located id remote =
        { locator with
          cache := (storeRemote remote options (currentTime + locator.cacheTtlMs) cacheMisses
            locator.cache result).1 }.return_ id options
          (storeRemote remote options (currentTime + locator.cacheTtlMs) cacheMisses
            locator.cache result).2 := by
  unfold located
  split
  · next options currentTime cacheMisses result hcall =>
    exact .inr ⟨options, currentTime, cacheMisses, result, hcall, rfl⟩
  · exact .inl rfl

@[simp] theorem step_cacheTtlMs (locator : DistributedPeerLocator) (e : Event) :
    (locator.step e).cacheTtlMs = locator.cacheTtlMs := by
  cases e with
  | localFound id result hasPeers currentTime =>
    rw [step]
    rcases locator.localFound_cases id result hasPeers currentTime with
      h | ⟨_, _, -, ⟨-, h⟩ | ⟨-, h⟩ | ⟨-, -, h⟩⟩ <;> rw [h] <;> rfl
  | located id remote =>
    rw [step]
    rcases locator.located_cases id remote with h | ⟨_, _, _, _, -, h⟩ <;> rw [h]
    rfl
  | _ => rfl

/-! ### Where the connections of a result come from -/

/-- The local locator answers the call, with a connection of the peer. -/
def Answers (id : ℕ) (peerId : JsString) (conn : ConnRef) (locator : DistributedPeerLocator)
    (e : Event) : Prop :=
  ∃ result hasPeers currentTime peerIds options,
    e = .localFound id result hasPeers currentTime ∧
    locator.calls.get id = some (.awaitingLocal peerIds options) ∧ conn ∈ listed result peerId

/-- The call looks into the cache. -/
def LooksUp (id currentTime : ℕ) (locator : DistributedPeerLocator) (e : Event) : Prop :=
  ∃ result peerIds options, e = .localFound id result true currentTime ∧
    locator.calls.get id = some (.awaitingLocal peerIds options)

/-- The cluster answers a call, with the connections of a peer. -/
def Locates (id : ℕ) (peerId : JsString) (options : Option FindOptions) (currentTime : ℕ)
    (conns : List ConnRef) (locator : DistributedPeerLocator) (e : Event) : Prop :=
  ∃ remote cacheMisses result, e = .located id remote ∧
    locator.calls.get id = some (.awaitingRemote options currentTime cacheMisses result) ∧
    peerId ∈ cacheMisses ∧ conns = listed remote peerId

/-- A locator without calls and entries. -/
def create (cacheTtlMs : ℕ) : DistributedPeerLocator := { cacheTtlMs }

/-- Some event of a run of the locator. -/
abbrev Once (cacheTtlMs : ℕ) (es : List Event)
    (Q : DistributedPeerLocator → Event → Prop) : Prop :=
  Machine.Past step (create cacheTtlMs) es Q

/-- Two lookups for different peers or groups have the same cache key. -/
def Collides (peerId : JsString) (options : Option FindOptions) (peerId' : JsString)
    (options' : Option FindOptions) : Prop :=
  cacheKey peerId options = cacheKey peerId' options' ∧
    (peerId, scopeGroup options) ≠ (peerId', scopeGroup options')

/-- In what a call returns, the connection of the peer is right: the local locator gave it in this
call, or the cluster gave it for this peer and this group, in this call or less than `cacheTtlMs`
before the call looked into the cache. -/
def Justified (cacheTtlMs : ℕ) (es : List Event) (call : ℕ) (options : Option FindOptions)
    (peerId : JsString) (conn : ConnRef) : Prop :=
  Once cacheTtlMs es (Answers call peerId conn) ∨
  ∃ id options' issued conns, scopeGroup options' = scopeGroup options ∧ conn ∈ conns ∧
    Once cacheTtlMs es (Locates id peerId options' issued conns) ∧
    (id = call ∨ ∃ currentTime, Once cacheTtlMs es (LooksUp call currentTime) ∧
      currentTime < issued + cacheTtlMs)

/-- Every connection that a call has returned is right. -/
def Transparent (cacheTtlMs : ℕ) (es : List Event) : Prop :=
  ∀ r ∈ (Machine.run step (create cacheTtlMs) es).found, ∀ peerId,
    ∀ conn ∈ listed r.result peerId, Justified cacheTtlMs es r.call r.options peerId conn

/-- When a call looks into the cache for a peer, and finds there what an earlier locate left, then
that was no colliding lookup. -/
def Apart (cacheTtlMs : ℕ) (es : List Event) (e : Event) : Prop :=
  ∀ call result currentTime, e = .localFound call result true currentTime →
  ∀ peerIds options, (Machine.run step (create cacheTtlMs) es).calls.get call =
    some (.awaitingLocal peerIds options) →
  ∀ peerId ∈ peerIds, ∀ id peerId' options' issued conns,
    Once cacheTtlMs es (Locates id peerId' options' issued conns) →
    currentTime < issued + cacheTtlMs →
    (Machine.run step (create cacheTtlMs) es).cache.get (cacheKey peerId options) =
      some { expiresAt := issued + cacheTtlMs, conns } →
    ¬Collides peerId options peerId' options'

/-- Where the entries, the running calls and the results come from. -/
structure Sourced (cacheTtlMs : ℕ) (es : List Event) (locator : DistributedPeerLocator) :
    Prop where
  ttl : locator.cacheTtlMs = cacheTtlMs
  cache : ∀ key cached, locator.cache.get key = some cached →
    ∃ id peerId options issued,
      Once cacheTtlMs es (Locates id peerId options issued cached.conns) ∧
      key = cacheKey peerId options ∧ cached.expiresAt = issued + cacheTtlMs
  calls : ∀ id options currentTime cacheMisses result,
    locator.calls.get id = some (.awaitingRemote options currentTime cacheMisses result) →
    ∀ peerId, ∀ conn ∈ listed result peerId, Justified cacheTtlMs es id options peerId conn
  found : ∀ r ∈ locator.found, ∀ peerId, ∀ conn ∈ listed r.result peerId,
    Justified cacheTtlMs es r.call r.options peerId conn

section sourced

variable {cacheTtlMs : ℕ} {es : List Event} {e : Event}

/-- What is right stays right. -/
theorem Justified.append {call : ℕ} (h : Justified cacheTtlMs es call options peerId conn)
    (fs : List Event) : Justified cacheTtlMs (es ++ fs) call options peerId conn := by
  rcases h with h | ⟨id, options', issued, conns, hgroup, hconn, hlocates, hown⟩
  · exact .inl (h.append fs)
  · refine .inr ⟨id, options', issued, conns, hgroup, hconn, hlocates.append fs, ?_⟩
    exact hown.imp_right fun ⟨currentTime, hlooks, hlt⟩ => ⟨currentTime, hlooks.append fs, hlt⟩

theorem sourced_create (cacheTtlMs : ℕ) : Sourced cacheTtlMs [] (create cacheTtlMs) :=
  ⟨rfl, by simp [create], by simp [create], by simp [create]⟩

/-- An event that leaves the entries alone, and lets no call go on. -/
theorem Sourced.keep (h : Sourced cacheTtlMs es locator) {locator' : DistributedPeerLocator}
    (httl : locator'.cacheTtlMs = locator.cacheTtlMs)
    (hcache : ∀ key cached, locator'.cache.get key = some cached →
      locator.cache.get key = some cached)
    (hcalls : ∀ id options currentTime cacheMisses result,
      locator'.calls.get id = some (.awaitingRemote options currentTime cacheMisses result) →
      locator.calls.get id = some (.awaitingRemote options currentTime cacheMisses result))
    (hfound : locator'.found = locator.found) :
    Sourced cacheTtlMs (es ++ [e]) locator' := by
  refine ⟨httl.trans h.ttl, fun key cached hget => ?_, ?_, ?_⟩
  · obtain ⟨id, p, options, issued, hlocates, hkey, hexpires⟩ := h.cache key cached (hcache _ _ hget)
    exact ⟨id, p, options, issued, hlocates.append [e], hkey, hexpires⟩
  · intro id options currentTime cacheMisses result hcall p conn hconn
    exact (h.calls _ _ _ _ _ (hcalls _ _ _ _ _ hcall) p conn hconn).append [e]
  · intro r hr p conn hconn
    exact (h.found r (hfound ▸ hr) p conn hconn).append [e]

/-- A call returns what is right. -/
theorem Sourced.return_ (h : Sourced cacheTtlMs es locator) {id : ℕ}
    (hresult : ∀ peerId, ∀ conn ∈ listed result peerId,
      Justified cacheTtlMs es id options peerId conn) :
    Sourced cacheTtlMs es (locator.return_ id options result) := by
  refine ⟨h.ttl, h.cache, fun id' options' currentTime cacheMisses result' hcall => ?_, ?_⟩
  · exact h.calls _ _ _ _ _ (JsMap.get_of_get_delete hcall).2
  · intro r hr
    rcases List.mem_append.1 hr with hold | hnew
    · exact h.found r hold
    · rw [List.mem_singleton.1 hnew]
      exact hresult

/-- What the cluster answered is stored. -/
theorem Sourced.store (h : Sourced cacheTtlMs es locator) {id : ℕ}
    (hlocates : ∀ p ∈ cacheMisses,
      Once cacheTtlMs es (Locates id p options currentTime (listed remote p))) :
    Sourced cacheTtlMs es { locator with
      cache := (storeRemote remote options (currentTime + locator.cacheTtlMs) cacheMisses
        locator.cache result).1 } := by
  refine ⟨h.ttl, fun key cached hget => ?_, h.calls, h.found⟩
  rcases get_storeRemote hget with hold | ⟨p, hp, -, hkey, rfl⟩
  · exact h.cache key cached hold
  · exact ⟨id, p, options, currentTime, hlocates p hp, hkey, by rw [h.ttl]⟩

/-- What the loop over the peers gives is right, when the lookups do not collide. -/
theorem justified_lookUp (h : Sourced cacheTtlMs es (Machine.run step (create cacheTtlMs) es))
    {id : ℕ}
    (hcall : (Machine.run step (create cacheTtlMs) es).calls.get id =
      some (.awaitingLocal peerIds options))
    (hapart : Apart cacheTtlMs es (.localFound id result true currentTime))
    (hconn : conn ∈ listed (lookUp (Machine.run step (create cacheTtlMs) es).cache options
      currentTime peerIds result).2 peerId) :
    Justified cacheTtlMs (es ++ [.localFound id result true currentTime]) id options peerId
      conn := by
  rcases mem_lookUp hconn with hlocal | ⟨hmem, cached, hfresh, hconn⟩
  · exact .inl (Machine.Past.last ⟨result, true, currentTime, peerIds, options, rfl, hcall, hlocal⟩)
  · obtain ⟨hget, hlt⟩ := fresh_eq_some_iff.1 hfresh
    obtain ⟨id', peerId', options', issued, hlocates, hkey, hexpires⟩ := h.cache _ _ hget
    have hsame : (peerId, scopeGroup options) = (peerId', scopeGroup options') := by
      by_contra hne
      refine hapart id result currentTime rfl peerIds options hcall peerId hmem id' peerId' options'
        issued cached.conns hlocates (hexpires ▸ hlt) ?_ ⟨hkey, hne⟩
      rw [hget, ← hexpires]
    obtain ⟨rfl, hgroup⟩ := Prod.mk.inj hsame
    refine .inr ⟨id', options', issued, cached.conns, hgroup.symm, hconn, hlocates.append _,
      .inr ⟨currentTime, ?_, hexpires ▸ hlt⟩⟩
    exact Machine.Past.last ⟨result, peerIds, options, rfl, hcall⟩

theorem sourced_step (h : Sourced cacheTtlMs es (Machine.run step (create cacheTtlMs) es))
    (hapart : Apart cacheTtlMs es e) :
    Sourced cacheTtlMs (es ++ [e]) ((Machine.run step (create cacheTtlMs) es).step e) := by
  have hsame : Sourced cacheTtlMs (es ++ [e]) (Machine.run step (create cacheTtlMs) es) :=
    h.keep rfl (fun _ _ h => h) (fun _ _ _ _ _ h => h) rfl
  cases e with
  | findMany peerIds options =>
    refine h.keep rfl (fun _ _ h => h) (fun id options' _ _ _ hcall => ?_) rfl
    simp only [step, JsMap.get_set] at hcall
    split_ifs at hcall
    · cases hcall
    · exact hcall
  | localFound id result hasPeers currentTime =>
    rw [step]
    rcases localFound_cases _ id result hasPeers currentTime with
      heq | ⟨peerIds, options, hcall, ⟨rfl, heq⟩ | ⟨rfl, heq⟩ | ⟨rfl, -, heq⟩⟩ <;> rw [heq]
    · exact hsame
    · -- without peers the call returns what the local locator found
      refine hsame.return_ fun p conn hconn => .inl (Machine.Past.last ?_)
      exact ⟨result, false, currentTime, peerIds, options, rfl, hcall, hconn⟩
    · exact hsame.return_ fun p conn hconn => justified_lookUp h hcall hapart hconn
    · refine ⟨hsame.ttl, hsame.cache, fun id' options' time' misses' result' hcall' => ?_,
        hsame.found⟩
      rw [JsMap.get_set] at hcall'
      split_ifs at hcall' with hid
      · cases hcall'
        subst hid
        exact fun p conn hconn => justified_lookUp h hcall hapart hconn
      · exact hsame.calls _ _ _ _ _ hcall'
  | located id remote =>
    rw [step]
    rcases located_cases _ id remote with heq | ⟨options, currentTime, misses, result, hcall, heq⟩ <;>
      rw [heq]
    · exact hsame
    · -- every id that was missing is settled by this answer, if only with nothing
      have hlocates : ∀ p ∈ misses, Once cacheTtlMs (es ++ [.located id remote])
          (Locates id p options currentTime (listed remote p)) := fun p hp =>
        Machine.Past.last ⟨remote, misses, result, rfl, hcall, hp, rfl⟩
      refine (hsame.store hlocates).return_ fun p conn hconn => ?_
      -- a connection was there before the answer, or the answer brought it
      rcases mem_storeRemote hconn with hold | ⟨hp, hnew⟩
      · exact hsame.calls _ _ _ _ _ hcall p conn hold
      · exact .inr ⟨id, options, currentTime, _, rfl, hnew, hlocates p hp, .inl rfl⟩
  | failed id =>
    exact h.keep rfl (fun _ _ h => h) (fun _ _ _ _ _ h => (JsMap.get_of_get_delete h).2) rfl
  | invalidate peerId =>
    exact h.keep rfl (fun _ _ h => (JsMap.get_filter.1 h).1) (fun _ _ _ _ _ h => h) rfl

/-- **As long as a call finds in the cache nothing that a colliding lookup left, every connection
that is returned comes from the local locator in this call, or from a locate for its peer and its
group that is young enough.** -/
theorem transparent_of_apart (cacheTtlMs : ℕ) {es : List Event}
    (h : ∀ pre e post, es = pre ++ e :: post → Apart cacheTtlMs pre e) :
    Transparent cacheTtlMs es :=
  (Machine.history_invariant (sourced_create cacheTtlMs)
    (fun _ _ hs hapart => sourced_step hs hapart) es h).found

end sourced

/-! ### One scope -/

theorem cacheKey_inj {p q : JsString} (h : cacheKey p options = cacheKey q options) : p = q := by
  cases options <;> exact List.append_cancel_left h

/-- The options of a call. -/
def FindCall.scope : FindCall → Option FindOptions
  | .awaitingLocal _ options => options
  | .awaitingRemote options _ _ _ => options

/-- A call keeps its options. -/
theorem scope_step {e : Event} {id : ℕ} {call : FindCall}
    (h : (locator.step e).calls.get id = some call) :
    (∃ peerIds, e = .findMany peerIds (FindCall.scope call)) ∨
      ∃ call', locator.calls.get id = some call' ∧ FindCall.scope call' = FindCall.scope call := by
  cases e with
  | findMany peerIds options =>
    simp only [step, JsMap.get_set] at h
    split_ifs at h
    · cases h
      exact .inl ⟨peerIds, rfl⟩
    · exact .inr ⟨call, h, rfl⟩
  | localFound id' result hasPeers currentTime =>
    rw [step] at h
    rcases locator.localFound_cases id' result hasPeers currentTime with
      heq | ⟨peerIds, options, hcall, ⟨-, heq⟩ | ⟨-, heq⟩ | ⟨-, -, heq⟩⟩ <;> rw [heq] at h
    · exact .inr ⟨call, h, rfl⟩
    · exact .inr ⟨call, (JsMap.get_of_get_delete h).2, rfl⟩
    · exact .inr ⟨call, (JsMap.get_of_get_delete h).2, rfl⟩
    · rw [JsMap.get_set] at h
      split_ifs at h with hid
      · cases h
        subst hid
        exact .inr ⟨_, hcall, rfl⟩
      · exact .inr ⟨call, h, rfl⟩
  | located id' remote =>
    rw [step] at h
    rcases locator.located_cases id' remote with heq | ⟨_, _, _, _, -, heq⟩ <;> rw [heq] at h
    · exact .inr ⟨call, h, rfl⟩
    · exact .inr ⟨call, (JsMap.get_of_get_delete h).2, rfl⟩
  | failed id' => exact .inr ⟨call, (JsMap.get_of_get_delete h).2, rfl⟩
  | invalidate peerId => exact .inr ⟨call, h, rfl⟩

/-- When all calls have the same options, so have the running ones. -/
theorem scope_run {cacheTtlMs : ℕ} {es : List Event}
    (h : ∀ peerIds options', .findMany peerIds options' ∈ es → options' = options) {id : ℕ}
    {call : FindCall}
    (hcall : (Machine.run step (create cacheTtlMs) es).calls.get id = some call) :
    FindCall.scope call = options := by
  induction es using List.reverseRecOn generalizing call with
  | nil => simp [create] at hcall
  | append_singleton es e ih =>
    rw [Machine.run_concat] at hcall
    rcases scope_step hcall with ⟨peerIds, rfl⟩ | ⟨call', hcall', hscope⟩
    · exact h peerIds _ (by simp)
    · rw [← hscope]
      exact ih (fun peerIds options' hmem => h peerIds options' (by simp [hmem])) hcall'

/-- Lookups with the same options do not collide. -/
theorem apart_of_scope {cacheTtlMs : ℕ} {es : List Event}
    (h : ∀ peerIds options', .findMany peerIds options' ∈ es → options' = options)
    (pre : List Event) (e : Event) (post : List Event) (heq : es = pre ++ e :: post) :
    Apart cacheTtlMs pre e := by
  subst heq
  rintro call result currentTime rfl peerIds options' hcall p - id p' options'' issued conns
    ⟨before, e', after, rfl, remote, misses, result', rfl, hremote, -, -⟩ - - ⟨hkey, hne⟩
  have hlocal := scope_run (fun peerIds o hmem => h peerIds o (List.mem_append_left _ hmem)) hcall
  have hlocated := scope_run (fun peerIds o hmem => h peerIds o
    (List.mem_append_left _ (List.mem_append_left _ hmem))) hremote
  simp only [FindCall.scope] at hlocal hlocated
  subst hlocal hlocated
  exact hne (by rw [cacheKey_inj hkey])

/-! ### A collision -/

section collision

/-- Peer `c` is looked up in group `a:b` and found on another node. -/
def someoneElse : ConnRef :=
  { nodeId := js "n2", connId := js "k", peerId := js "c", groupId := some (js "a:b") }

/-- A connection is found once on another node, and once more in the cache. -/
def foundTwice : List Event :=
  [.findMany [js "c"] (some { groupId := some (js "a:b") }), .localFound 0 .empty true 0,
    .located 0 (JsMap.empty.set (js "c") [someoneElse]),
    .findMany [js "c"] (some { groupId := some (js "a:b") }), .localFound 1 .empty true 1]

theorem transparent_foundTwice : Transparent 250 foundTwice ∧
    (Machine.run step (create 250) foundTwice).found.map (fun r => listed r.result (js "c")) =
      [[someoneElse], [someoneElse]] := by
  have hscope : ∀ peerIds options, .findMany peerIds options ∈ foundTwice →
      options = some { groupId := some (js "a:b") } := by
    intro peerIds options hmem
    simp only [foundTwice, List.mem_cons, List.not_mem_nil, or_false, reduceCtorEq, false_or,
      Event.findMany.injEq] at hmem
    rcases hmem with ⟨-, rfl⟩ | ⟨-, rfl⟩ <;> rfl
  exact ⟨transparent_of_apart 250 (apart_of_scope hscope), by decide +kernel⟩

/-- Peer `c` of group `a:b` is looked up, and then peer `b:c` of group `a`. -/
def colliding : List Event :=
  [.findMany [js "c"] (some { groupId := some (js "a:b") }), .localFound 0 .empty true 0,
    .located 0 (JsMap.empty.set (js "c") [someoneElse]),
    .findMany [js "b:c"] (some { groupId := some (js "a") }), .localFound 1 .empty true 0]

theorem not_transparent : ¬∀ cacheTtlMs es, Transparent cacheTtlMs es := by
  intro h
  have hfound : ∃ r ∈ (Machine.run step (create 250) colliding).found,
      r.call = 1 ∧ someoneElse ∈ listed r.result (js "b:c") := by
    refine ⟨_, List.mem_of_getElem? (i := 1) rfl, ?_⟩
    decide +kernel
  obtain ⟨r, hr, hcall, hconn⟩ := hfound
  rcases h 250 colliding r hr (js "b:c") someoneElse hconn with
    ⟨pre, e, post, heq, result, _, _, _, _, rfl, -, hlocal⟩ |
    ⟨_, _, _, _, -, hremote, ⟨pre, e, post, heq, remote, _, _, rfl, -, -, rfl⟩, -⟩
  · -- the local locator knows nobody
    have hmem : .localFound r.call result _ _ ∈ colliding := heq ▸ List.mem_append_cons_self
    simp only [colliding, List.mem_cons, List.not_mem_nil, or_false, reduceCtorEq, false_or,
      Event.localFound.injEq] at hmem
    rcases hmem with ⟨-, rfl, -⟩ | ⟨-, rfl, -⟩ <;> cases hlocal
  · -- the cluster knows nobody of the second peer
    have hmem : .located _ remote ∈ colliding := heq ▸ List.mem_append_cons_self
    simp only [colliding, List.mem_cons, List.not_mem_nil, or_false, reduceCtorEq, false_or,
      Event.located.injEq] at hmem
    obtain ⟨-, rfl⟩ := hmem
    revert hremote
    decide +kernel

end collision

end DistributedPeerLocator

end Hardess
