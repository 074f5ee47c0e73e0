import McpSqlServer.Library.SortedSets
import McpSqlServer.RateLimiter.Local

namespace McpSqlServer

open Library.Text Library.Python Library.Admission Library.SortedSets

/-- A call of `RedisSlidingWindowRateLimiter.allow`, with the limits of the process that
makes it, its `now_ms` and its `uuid.uuid4().hex`. -/
structure RedisCall where
  limits : WindowLimits
  actor : Str
  nowMs : ℕ
  uuid : Str

def RedisCall.member (c : RedisCall) : Str := intText c.nowMs ++ ':' :: c.uuid

/-- `_LUA`, executed at once. -/
def luaScript {σ : Type} [Redis σ] (actorKey globalKey : Str) (actorLimit globalLimit nowMs windowMs : ℤ) (member : Str)
    (ttlSec : ℤ) (store : σ) : ℤ × σ :=
  let cutoff := nowMs - windowMs
  let store := Redis.zremrangebyscore nowMs actorKey 0 cutoff store
  let store := Redis.zremrangebyscore nowMs globalKey 0 cutoff store
  if actorLimit ≤ Redis.zcard nowMs actorKey store then (2, store)
  else if globalLimit ≤ Redis.zcard nowMs globalKey store then (3, store)
  else
    let store := Redis.zadd nowMs actorKey nowMs member store
    let store := Redis.zadd nowMs globalKey nowMs member store
    let store := Redis.expire nowMs actorKey ttlSec store
    (1, Redis.expire nowMs globalKey ttlSec store)

def actorKey (keyNamespace actor : Str) : Str := keyNamespace ++ ":actor:".toList ++ actor

def globalKey (keyNamespace : Str) : Str := keyNamespace ++ ":global".toList

def codeResult (code : ℤ) : Except Exc Unit :=
  if code = 2 then .error (permissionError "RATE_LIMIT_EXCEEDED: actor quota exceeded".toList)
  else if code = 3 then .error (permissionError "RATE_LIMIT_EXCEEDED: global quota exceeded".toList)
  else if code ≠ 1 then .error (permissionError "RATE_LIMIT_EXCEEDED: backend returned unknown result".toList)
  else .ok ()

/-- `RedisSlidingWindowRateLimiter.allow`. -/
def redisGate {σ : Type} [Redis σ] (keyNamespace : Str) : Gate RedisCall σ Exc := fun c store ↦
  let (code, store) := luaScript (actorKey keyNamespace c.actor) (globalKey keyNamespace) c.limits.actorLimit
    c.limits.globalLimit c.nowMs 60000 c.member 120 store
  (codeResult code, store)

theorem actorKey_ne_globalKey (keyNamespace actor : Str) : actorKey keyNamespace actor ≠ globalKey keyNamespace := by
  intro h
  rw [actorKey, globalKey, List.append_assoc] at h
  have hc := List.append_cancel_left h
  cases hc

theorem actorKey_injective {keyNamespace a b : Str} (h : actorKey keyNamespace a = actorKey keyNamespace b) : a = b :=
  List.append_cancel_left h

def RedisCall.inWindow (c e : RedisCall) : Bool := (c.nowMs : ℤ) - 60000 < e.nowMs && e.nowMs ≤ c.nowMs

def RedisCall.sameActor (c e : RedisCall) : Bool := e.actor = c.actor

def redisDecision (history : List RedisCall) (c : RedisCall) : Except Exc Unit :=
  quotaDecision c.limits (history.countP (fun e ↦ c.sameActor e && c.inWindow e)) (history.countP c.inWindow)

def scored (history : List RedisCall) : SortedSet := history.map (fun e ↦ (e.member, (e.nowMs : ℤ)))

def ofActor (actor : Str) (history : List RedisCall) : List RedisCall := history.filter (fun e ↦ e.actor = actor)

/-- A key still holds every admission of the last minute. -/
def HoldsRecent (e : Entry) (history : List RedisCall) (now : ℤ) : Prop :=
  ∃ cutoff ≤ now - 60000, e.Retains (scored history) cutoff 120000

structure Remembers {σ : Type} [Redis σ] (keyNamespace : Str) (store : σ) (history : List RedisCall) (now : ℤ) :
    Prop where
  actor : ∀ a, HoldsRecent (Redis.entry store (actorKey keyNamespace a)) (ofActor a history) now
  globalEvents : HoldsRecent (Redis.entry store (globalKey keyNamespace)) history now

theorem HoldsRecent.mono {e : Entry} {history : List RedisCall} {now now' : ℤ} (h : HoldsRecent e history now)
    (hn : now ≤ now') : HoldsRecent e history now' := by
  obtain ⟨cutoff, hc, he⟩ := h
  exact ⟨cutoff, by omega, he⟩

section Step

variable {history : List RedisCall} {c : RedisCall} {e : Entry} {keyNamespace : Str}

theorem scored_nonneg : ∀ m ∈ scored history, 0 ≤ m.2 := by
  intro m hm
  obtain ⟨d, -, rfl⟩ := List.mem_map.mp hm
  exact Int.natCast_nonneg d.nowMs

theorem length_recent (hle : ∀ e ∈ history, e.nowMs ≤ c.nowMs) :
    ((scored history).filter (fun m ↦ (c.nowMs : ℤ) - 60000 < m.2)).length = history.countP c.inWindow := by
  rw [scored, List.filter_map, List.length_map, ← List.countP_eq_length_filter]
  refine List.countP_congr (fun e he ↦ ?_)
  simp [RedisCall.inWindow, hle e he]

theorem countP_ofActor : (ofActor c.actor history).countP c.inWindow =
    history.countP (fun e ↦ c.sameActor e && c.inWindow e) := by
  rw [ofActor, List.countP_filter]
  exact List.countP_congr (fun e _ ↦ by simp [RedisCall.sameActor, and_comm])

theorem HoldsRecent.remove {now : ℤ} (h : HoldsRecent e history now) :
    ((e.live now).remove 0 (now - 60000)).Retains (scored history) (now - 60000) 120000 := by
  obtain ⟨cutoff, hc, he⟩ := h
  have hlive : (e.live now).Retains (scored history) cutoff 120000 ∨
      (e.live now).Retains (scored history) (now - 60000) 120000 := he.live (by omega)
  rcases hlive with hl | hl
  · exact hl.remove scored_nonneg hc
  · exact hl.remove scored_nonneg le_rfl

theorem retains_live {now : ℤ} (h : e.Retains (scored history) (now - 60000) 120000) :
    (e.live now).Retains (scored history) (now - 60000) 120000 := by
  have hlive : (e.live now).Retains (scored history) (now - 60000) 120000 ∨
      (e.live now).Retains (scored history) (now - 60000) 120000 := h.live (by omega)
  rcases hlive with hl | hl
  · exact hl
  · exact hl

variable {σ : Type} [Redis σ] {store : σ}

def removedStore (keyNamespace : Str) (c : RedisCall) (store : σ) : σ :=
  Redis.zremrangebyscore c.nowMs (globalKey keyNamespace) 0 (c.nowMs - 60000)
    (Redis.zremrangebyscore c.nowMs (actorKey keyNamespace c.actor) 0 (c.nowMs - 60000) store)

variable (h : Remembers keyNamespace store history c.nowMs)
include h

theorem removedStore_actor : (Redis.entry (removedStore keyNamespace c store) (actorKey keyNamespace c.actor)).Retains
    (scored (ofActor c.actor history)) ((c.nowMs : ℤ) - 60000) 120000 := by
  rw [removedStore, Redis.zremrangebyscore_of_ne _ _ _ _ _ _ (actorKey_ne_globalKey _ _)]
  exact (h.actor c.actor).remove.of_alike (Redis.zremrangebyscore_self _ _ _ _ _)

theorem removedStore_global : (Redis.entry (removedStore keyNamespace c store) (globalKey keyNamespace)).Retains
    (scored history) ((c.nowMs : ℤ) - 60000) 120000 := by
  have hremoved := Redis.zremrangebyscore_self c.nowMs (globalKey keyNamespace) 0 (c.nowMs - 60000)
    (Redis.zremrangebyscore c.nowMs (actorKey keyNamespace c.actor) 0 (c.nowMs - 60000) store)
  rw [Redis.zremrangebyscore_of_ne _ _ _ _ _ _ (actorKey_ne_globalKey _ _).symm] at hremoved
  exact h.globalEvents.remove.of_alike hremoved

theorem remembers_removedStore : Remembers keyNamespace (removedStore keyNamespace c store) history c.nowMs where
  actor a := by
    by_cases ha : a = c.actor
    · rw [ha]
      exact ⟨_, le_rfl, removedStore_actor h⟩
    · rw [removedStore, Redis.zremrangebyscore_of_ne _ _ _ _ _ _ (actorKey_ne_globalKey _ _),
        Redis.zremrangebyscore_of_ne _ _ _ _ _ _ (fun he ↦ ha (actorKey_injective he))]
      exact h.actor a
  globalEvents := ⟨_, le_rfl, removedStore_global h⟩

theorem zcard_actor (hle : ∀ e ∈ history, e.nowMs ≤ c.nowMs) :
    Redis.zcard c.nowMs (actorKey keyNamespace c.actor) (removedStore keyNamespace c store) =
      history.countP (fun e ↦ c.sameActor e && c.inWindow e) := by
  have hactor : ∀ e ∈ ofActor c.actor history, e.nowMs ≤ c.nowMs := fun e he ↦ hle e (List.mem_of_mem_filter he)
  rw [Redis.zcard_eq, (retains_live (removedStore_actor h)).members.length_eq, length_recent hactor, countP_ofActor]

theorem zcard_global (hle : ∀ e ∈ history, e.nowMs ≤ c.nowMs) :
    Redis.zcard c.nowMs (globalKey keyNamespace) (removedStore keyNamespace c store) = history.countP c.inWindow := by
  rw [Redis.zcard_eq, (retains_live (removedStore_global h)).members.length_eq, length_recent hle]

def addedStore (keyNamespace : Str) (c : RedisCall) (store : σ) : σ :=
  let added := Redis.zadd c.nowMs (globalKey keyNamespace) c.nowMs c.member
    (Redis.zadd c.nowMs (actorKey keyNamespace c.actor) c.nowMs c.member store)
  Redis.expire c.nowMs (globalKey keyNamespace) 120 (Redis.expire c.nowMs (actorKey keyNamespace c.actor) 120 added)

omit h in
theorem addedStore_actor (store : σ) :
    (Redis.entry (addedStore keyNamespace c store) (actorKey keyNamespace c.actor)).Alike
      ((Redis.entry store (actorKey keyNamespace c.actor)).renewed c.nowMs 120 c.member) := by
  have hne := actorKey_ne_globalKey keyNamespace c.actor
  have hadded := Redis.zadd_self c.nowMs (actorKey keyNamespace c.actor) c.nowMs c.member store
  have hlasting := Redis.expire_self c.nowMs (actorKey keyNamespace c.actor) 120
    (Redis.zadd c.nowMs (globalKey keyNamespace) c.nowMs c.member
      (Redis.zadd c.nowMs (actorKey keyNamespace c.actor) c.nowMs c.member store))
  rw [Redis.zadd_of_ne _ _ _ _ _ _ hne] at hlasting
  rw [addedStore, Redis.expire_of_ne _ _ _ _ _ hne]
  exact hlasting.trans (hadded.live.lasting _)

omit h in
theorem addedStore_global (store : σ) :
    (Redis.entry (addedStore keyNamespace c store) (globalKey keyNamespace)).Alike
      ((Redis.entry store (globalKey keyNamespace)).renewed c.nowMs 120 c.member) := by
  have hne := (actorKey_ne_globalKey keyNamespace c.actor).symm
  have hadded := Redis.zadd_self c.nowMs (globalKey keyNamespace) c.nowMs c.member
    (Redis.zadd c.nowMs (actorKey keyNamespace c.actor) c.nowMs c.member store)
  have hlasting := Redis.expire_self c.nowMs (globalKey keyNamespace) 120
    (Redis.expire c.nowMs (actorKey keyNamespace c.actor) 120 (Redis.zadd c.nowMs (globalKey keyNamespace) c.nowMs
      c.member (Redis.zadd c.nowMs (actorKey keyNamespace c.actor) c.nowMs c.member store)))
  rw [Redis.zadd_of_ne _ _ _ _ _ _ hne] at hadded
  rw [Redis.expire_of_ne _ _ _ _ _ hne] at hlasting
  exact hlasting.trans (hadded.live.lasting _)

omit h in
theorem addedStore_of_ne {a : Str} (ha : a ≠ c.actor) (store : σ) :
    Redis.entry (addedStore keyNamespace c store) (actorKey keyNamespace a) =
      Redis.entry store (actorKey keyNamespace a) := by
  have hne : actorKey keyNamespace a ≠ actorKey keyNamespace c.actor := fun he ↦ ha (actorKey_injective he)
  have hglobal := actorKey_ne_globalKey keyNamespace a
  rw [addedStore, Redis.expire_of_ne _ _ _ _ _ hglobal, Redis.expire_of_ne _ _ _ _ _ hne,
    Redis.zadd_of_ne _ _ _ _ _ _ hglobal, Redis.zadd_of_ne _ _ _ _ _ _ hne]

omit h in
theorem redisGate_eq (store : σ) : redisGate keyNamespace c store =
    if c.limits.actorLimit ≤ Redis.zcard c.nowMs (actorKey keyNamespace c.actor) (removedStore keyNamespace c store) then
      (.error (permissionError "RATE_LIMIT_EXCEEDED: actor quota exceeded".toList), removedStore keyNamespace c store)
    else if c.limits.globalLimit ≤ Redis.zcard c.nowMs (globalKey keyNamespace) (removedStore keyNamespace c store) then
      (.error (permissionError "RATE_LIMIT_EXCEEDED: global quota exceeded".toList), removedStore keyNamespace c store)
    else (.ok (), addedStore keyNamespace c (removedStore keyNamespace c store)) := by
  unfold redisGate luaScript removedStore addedStore
  dsimp only
  split
  · rfl
  · split
    · rfl
    · rfl

theorem redisGate_fst (hle : ∀ e ∈ history, e.nowMs ≤ c.nowMs) :
    (redisGate keyNamespace c store).1 = redisDecision history c := by
  rw [redisGate_eq, zcard_actor h hle, zcard_global h hle, apply_ite Prod.fst, apply_ite Prod.fst]
  rfl

omit h in
theorem scored_append : scored (history ++ [c]) = scored history ++ [(c.member, (c.nowMs : ℤ))] := List.map_append

omit h in
theorem ofActor_append_self : ofActor c.actor (history ++ [c]) = ofActor c.actor history ++ [c] := by
  simp [ofActor]

omit h in
theorem ofActor_append_of_ne {a : Str} (ha : a ≠ c.actor) : ofActor a (history ++ [c]) = ofActor a history := by
  simp [ofActor, Ne.symm ha]

variable (hle : ∀ e ∈ history, e.nowMs ≤ c.nowMs) (hm : ∀ e ∈ history, e.member ≠ c.member)
include hle hm

omit h in
theorem retains_added (he : e.Retains (scored history) ((c.nowMs : ℤ) - 60000) 120000) :
    (e.renewed c.nowMs 120 c.member).Retains (scored (history ++ [c])) ((c.nowMs : ℤ) - 60000) 120000 := by
  rw [scored_append]
  refine (retains_live he).add (fun t ht ↦ Entry.lt_of_live ht) (fun m hm' ↦ ?_) (fun m hm' ↦ ?_) (by omega)
  · obtain ⟨d, hd, rfl⟩ := List.mem_map.mp hm'
    exact hm d hd
  · obtain ⟨d, hd, rfl⟩ := List.mem_map.mp hm'
    exact Int.ofNat_le.mpr (hle d hd)

theorem remembers_addedStore :
    Remembers keyNamespace (addedStore keyNamespace c (removedStore keyNamespace c store)) (history ++ [c])
      c.nowMs where
  actor a := by
    by_cases ha : a = c.actor
    · rw [ha, ofActor_append_self]
      have hadded := retains_added (fun e he ↦ hle e (List.mem_of_mem_filter he))
        (fun e he ↦ hm e (List.mem_of_mem_filter he)) (removedStore_actor h)
      exact ⟨_, le_rfl, hadded.of_alike (addedStore_actor _)⟩
    · rw [ofActor_append_of_ne ha, addedStore_of_ne ha]
      exact (remembers_removedStore h).actor a
  globalEvents := ⟨_, le_rfl, (retains_added hle hm (removedStore_global h)).of_alike (addedStore_global _)⟩

theorem redisGate_snd : Remembers keyNamespace (redisGate keyNamespace c store).2
    (history ++ if passes (redisGate keyNamespace c store).1 then [c] else []) c.nowMs := by
  rw [redisGate_eq]
  split
  · simp only [passes, Bool.false_eq_true, if_false, List.append_nil]
    exact remembers_removedStore h
  · split
    · simp only [passes, Bool.false_eq_true, if_false, List.append_nil]
      exact remembers_removedStore h
    · simp only [passes, if_true]
      exact remembers_addedStore h hle hm

end Step

section Runs

variable {σ : Type} [Redis σ] {keyNamespace : Str} {calls pre post : List RedisCall} {c : RedisCall}

/-- Calls in the order of their clock readings, with unique members. -/
structure Timely (calls : List RedisCall) : Prop where
  nowMs_le : calls.Pairwise (fun c d ↦ c.nowMs ≤ d.nowMs)
  member_ne : calls.Pairwise (fun c d ↦ c.member ≠ d.member)

theorem Timely.concat (h : Timely (pre ++ [c])) :
    Timely pre ∧ (∀ e ∈ pre, e.nowMs ≤ c.nowMs) ∧ ∀ e ∈ pre, e.member ≠ c.member := by
  obtain ⟨hpre, -, hc⟩ := List.pairwise_append.mp h.nowMs_le
  obtain ⟨hpre', -, hc'⟩ := List.pairwise_append.mp h.member_ne
  exact ⟨⟨hpre, hpre'⟩, fun e he ↦ hc e he c (List.mem_singleton_self c),
    fun e he ↦ hc' e he c (List.mem_singleton_self c)⟩

theorem Timely.upTo (h : Timely calls) (hc : calls = pre ++ c :: post) : Timely (pre ++ [c]) := by
  have hsub : (pre ++ [c]).Sublist calls := by
    rw [hc]
    exact (List.Sublist.refl pre).append (List.singleton_sublist.mpr List.mem_cons_self)
  exact ⟨h.nowMs_le.sublist hsub, h.member_ne.sublist hsub⟩

theorem remembers_after (h : Timely calls) {now : ℤ} (hnow : ∀ e ∈ calls, (e.nowMs : ℤ) ≤ now) :
    Remembers keyNamespace (after (redisGate keyNamespace) (Redis.empty : σ) calls)
      (admitted (redisGate keyNamespace) calls (Redis.empty : σ)) now := by
  induction calls using List.reverseRecOn generalizing now with
  | nil =>
    have hempty (key : Str) : HoldsRecent (Redis.entry (Redis.empty : σ) key) [] now := by
      rw [Redis.entry_empty]
      exact ⟨now - 60000, le_rfl, .refl [], fun t ht ↦ by cases ht⟩
    exact ⟨fun a ↦ hempty _, hempty _⟩
  | append_singleton pre c ih =>
    obtain ⟨hpre, hle, hm⟩ := h.concat
    have hsub : admitted (redisGate keyNamespace) pre (Redis.empty : σ) ⊆ pre := (admitted_sublist pre).subset
    have hstep := redisGate_snd (ih hpre (fun e he ↦ Int.ofNat_le.mpr (hle e he))) (fun e he ↦ hle e (hsub he))
      (fun e he ↦ hm e (hsub he))
    have hcn : (c.nowMs : ℤ) ≤ now := hnow c (List.mem_append_right _ (List.mem_singleton_self c))
    rw [after_concat, admitted_concat]
    exact ⟨fun a ↦ (hstep.actor a).mono hcn, hstep.globalEvents.mono hcn⟩

theorem outcome_eq_redisDecision (h : Timely (pre ++ [c])) :
    outcome (redisGate keyNamespace) (Redis.empty : σ) pre c =
      redisDecision (admitted (redisGate keyNamespace) pre (Redis.empty : σ)) c := by
  obtain ⟨hpre, hle, -⟩ := h.concat
  have hsub : admitted (redisGate keyNamespace) pre (Redis.empty : σ) ⊆ pre := (admitted_sublist pre).subset
  exact redisGate_fst (remembers_after hpre (fun e he ↦ Int.ofNat_le.mpr (hle e he))) (fun e he ↦ hle e (hsub he))

/-- Expiry and removal by score never forget an admission that still counts, whichever
process made it. -/
theorem redis_admits_iff (σ : Type) [Redis σ] (keyNamespace : Str) (calls : List RedisCall) (h : Timely calls) :
    ∀ pre c post, calls = pre ++ c :: post →
      (outcome (redisGate keyNamespace) (Redis.empty : σ) pre c = .ok () ↔
        ((admitted (redisGate keyNamespace) pre (Redis.empty : σ)).countP (fun e ↦ e.actor = c.actor &&
          ((c.nowMs : ℤ) - 60000 < e.nowMs && e.nowMs ≤ c.nowMs)) : ℤ) < c.limits.actorRpm + c.limits.actorBurst ∧
        ((admitted (redisGate keyNamespace) pre (Redis.empty : σ)).countP (fun e ↦
          (c.nowMs : ℤ) - 60000 < e.nowMs && e.nowMs ≤ c.nowMs) : ℤ) < c.limits.globalRpm + c.limits.globalBurst) := by
  intro pre c post hc
  rw [outcome_eq_redisDecision (h.upTo hc), redisDecision, quotaDecision_eq_ok]
  exact Iff.rfl

def redisAlice (nowMs : ℕ) (uuid : Str) : RedisCall := ⟨oneEach, "alice".toList, nowMs, uuid⟩

theorem redis_admits_iff_edge :
    outcome (redisGate "mcp".toList) (Redis.empty : Store) [redisAlice 0 ['a']] (redisAlice 60000 ['b']) = .ok () := by
  have h : Timely [redisAlice 0 ['a'], redisAlice 60000 ['b']] := ⟨by simp [redisAlice], by decide⟩
  rw [redis_admits_iff Store "mcp".toList _ h [redisAlice 0 ['a']] (redisAlice 60000 ['b']) [] rfl]
  decide +kernel

end Runs

end McpSqlServer
